import SchemaTypings.Folder.Basic
import SchemaTypings.Proofs.Cutting
import SchemaTypings.Proofs.Lines
import SchemaTypings.Proofs.Outcome

/-!
# Files that are written

A file that could be written is there afterwards, at the same path, unless the path leads to the device
that keeps nothing. A path that ends in a suffix has it, unless the suffix is all of its last part.
-/

open SchemaTypings.Outcome

namespace SchemaTypings

/-! ## The last part of a path -/

namespace Text

theorem cut_append_end {sep : Char} {tail : List Char} (h : sep ∉ tail) (front : List Char) :
    ∃ pieces last, cut sep (front ++ tail) = pieces ++ [last ++ tail] := by
  induction front with
  | nil => exact ⟨[], [], cut_of_notMem h⟩
  | cons c front ih =>
    obtain ⟨pieces, last, hcut⟩ := ih
    rw [List.cons_append, cut, hcut]
    split
    · exact ⟨[] :: pieces, last, rfl⟩
    · cases pieces with
      | nil => exact ⟨[], c :: last, rfl⟩
      | cons piece pieces => exact ⟨(c :: piece) :: pieces, last, rfl⟩

theorem ofList_append_ne {tail : List Char} {s : String} (h : s.toList.length < tail.length)
    (front : List Char) : String.ofList (front ++ tail) ≠ s := by
  rintro rfl
  rw [String.toList_ofList, List.length_append] at h
  omega

end Text

namespace Path

theorem exists_parts_of_suffix {file : String} {c : Char} {tail : List Char}
    (hslash : '/' ∉ c :: tail) (htail : tail ≠ []) (h : (c :: tail) <:+ file.toList) :
    ∃ parts last, (ofString file).parts = parts ++ [String.ofList (last ++ c :: tail)] := by
  obtain ⟨front, hfront⟩ := h
  obtain ⟨pieces, last, hcut⟩ := Text.cut_append_end hslash front
  -- The last piece is longer than one character, so it is not left out of the path.
  have hkept : (!(last ++ c :: tail).isEmpty && (last ++ c :: tail) != ['.']) = true := by
    have hlength : (last ++ c :: tail).length ≠ 1 := by
      have := List.length_pos_of_ne_nil htail
      rw [List.length_append, List.length_cons]
      omega
    have hdot : last ++ c :: tail ≠ ['.'] := fun h => hlength (by rw [h]; rfl)
    simp [hdot]
  refine ⟨(pieces.filter fun p => !p.isEmpty && p != ['.']).map String.ofList, last, ?_⟩
  rw [ofString, ← hfront, hcut]
  simp only [List.filter_append, List.map_append, List.filter_cons, hkept, if_true, List.filter_nil,
    List.map_cons, List.map_nil]

/-- A path that ends in a suffix has it, if its last part is more than that. -/
theorem suffix_of_json {file : String} (h : ".json".toList <:+ file.toList)
    (hname : (ofString file).fileName ≠ ".json") : (ofString file).suffix = ".json" := by
  obtain ⟨parts, last, hparts⟩ := exists_parts_of_suffix (by decide) (by decide) h
  have hfile : (ofString file).fileName = String.ofList (last ++ ".json".toList) := by
    rw [fileName, hparts, List.getLastD_concat]
    rfl
  have hlast : last ≠ [] := by
    rintro rfl
    exact hname hfile
  have hcut : Text.cutLast '.' (last ++ ".json".toList) = some (last, "json".toList) :=
    Text.cutLast_append (by decide) last
  have hsuffix : suffixOf (last ++ ".json".toList) = ".json".toList := by
    rw [suffixOf, hcut]
    cases last with
    | nil => exact absurd rfl hlast
    | cons c last => rfl
  rw [suffix, hfile, String.toList_ofList, hsuffix]
  decide

end Path

/-! ## Folders with more directories -/

namespace Folder

variable {f g : Folder}

theorem walk_above {names : List String} {place : Place} (h : f.walk .above names = .ok place) :
    place = .above := by
  induction names with
  | nil => exact (Except.ok.inj h).symm
  | cons name names ih =>
    rw [walk] at h
    split_ifs at h
    exact ih h

theorem walk_mono (hdirectories : ∀ parts, f.isDirectory parts = true → g.isDirectory parts = true)
    {start place : Place} {names : List String} (h : f.walk start names = .ok place) :
    g.walk start names = .ok place := by
  induction names generalizing start with
  | nil => exact h
  | cons name names ih =>
    cases start with
    | above =>
      rw [walk] at h ⊢
      split_ifs at h ⊢
      exact ih h
    | inside parts =>
      rw [walk] at h ⊢
      split at h
      · cases h
      · next hparts =>
        rw [Bool.not_eq_true, Bool.not_eq_false'] at hparts
        rw [hdirectories parts hparts, Bool.not_true, if_neg Bool.false_ne_true]
        split_ifs at h ⊢ <;> exact ih h

theorem place_mono (hdirectories : ∀ parts, f.isDirectory parts = true → g.isDirectory parts = true)
    {p : Path} {parts : List String} (h : f.place p = .ok (.inside parts)) :
    g.place p = .ok (.inside parts) := by
  unfold place at h ⊢
  split_ifs at h ⊢ with _ _ _ hg hf hf
  · exact walk_mono hdirectories h
  · exact walk_mono hdirectories h
  · cases walk_above h
  · exact absurd (hdirectories _ hf) hg
  · cases walk_above h

theorem walk_snoc {start : Place} {names parts : List String} {name : String} (hname : name ≠ "..")
    (h : f.walk start (names ++ [name]) = .ok (.inside parts)) : ∃ front, parts = front ++ [name] := by
  induction names generalizing start with
  | nil =>
    cases start with
    | above => cases walk_above h
    | inside start =>
      rw [List.nil_append, walk] at h
      split_ifs at h
      exact ⟨start, (Place.inside.inj (Except.ok.inj h)).symm⟩
  | cons first names ih =>
    cases start with
    | above => cases walk_above h
    | inside start =>
      rw [List.cons_append, walk] at h
      split_ifs at h <;> exact ih h

theorem place_snoc {p : Path} {names parts : List String} {name : String}
    (hparts : p.parts = names ++ [name]) (hname : name ≠ "..")
    (h : f.place p = .ok (.inside parts)) : ∃ front, parts = front ++ [name] := by
  unfold place at h
  rw [hparts] at h
  split_ifs at h
  · exact walk_snoc hname h
  · exact walk_snoc hname h
  · cases walk_above h

/-! ## Writing and finding -/

theorem isDirectory_put {parts file : List String} {text : String}
    (h : f.isDirectory parts = true) :
    Folder.isDirectory { f with files := Table.put f.files file text } parts = true := by
  unfold isDirectory at h ⊢
  rw [Bool.or_eq_true] at h ⊢
  refine h.imp_right fun h => ?_
  rw [List.any_eq_true] at h ⊢
  obtain ⟨key, hkey, hprefix⟩ := h
  exact ⟨key, (Table.mem_keys_put ..).mpr (Or.inl hkey), hprefix⟩

/-- A file that could be written is found with its text. -/
theorem find_of_write {p : Path} {names : List String} {name text : String}
    (hparts : p.parts = names ++ [name]) (hname : name ∉ ["..", "null"])
    (h : f.write p text = .ok g) : g.find p = .ok (.file text) := by
  rw [List.mem_cons, List.mem_singleton, not_or] at hname
  obtain ⟨place, hplace, h⟩ := bind_eq_ok.mp h
  cases place with
  | above => cases h
  | inside parts =>
    -- What is written to the null device is gone, but the name rules this out.
    have hlast : parts ≠ nullDevice := by
      obtain ⟨front, rfl⟩ := place_snoc hparts hname.1 hplace
      intro hdevice
      have hnull := congrArg (List.getLastD · "") hdevice
      rw [List.getLastD_concat] at hnull
      exact hname.2 hnull
    simp only at h
    split at h
    · cases h
    · cases h
      have hfound : Table.get? (Table.put f.files parts text) parts = some text := by
        rw [Table.get?_put, if_pos rfl]
      have hsame : Folder.place { f with files := Table.put f.files parts text } p =
          .ok (.inside parts) := place_mono (fun _ => isDirectory_put) hplace
      rw [find, hsame, ok_bind]
      simp only [hfound]
      rfl

end Folder

end SchemaTypings
