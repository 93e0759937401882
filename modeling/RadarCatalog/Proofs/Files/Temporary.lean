import RadarCatalog.Files.Disk

/-!
# Temporary names

The temporary name of a file leads into the directory of the file, and to another place than the
file's own name, whatever slashes and dots the name holds.
-/

namespace RadarCatalog.Files

/-! ## 1. The parts of a longer path name -/

/-- Characters without a slash go to the last part. -/
theorem splitParts_append {ds : List Char} (h : '/' ∉ ds) : ∀ cs : List Char,
    ∃ parts part, splitParts cs = parts ++ [part] ∧ splitParts (cs ++ ds) = parts ++ [part ++ ds]
  | [] => by
    have hds : ∀ ds : List Char, '/' ∉ ds → splitParts ds = [ds] := by
      intro ds
      induction ds with
      | nil => exact fun _ => rfl
      | cons d ds ih =>
        intro hd
        have hne : ¬ d = '/' := fun e => hd (e ▸ List.mem_cons_self)
        have hrest : '/' ∉ ds := fun m => hd (List.mem_cons_of_mem _ m)
        simp only [splitParts, hne, if_false, ih hrest]
    exact ⟨[], [], rfl, hds ds h⟩
  | c :: cs => by
    obtain ⟨parts, part, hcs, happend⟩ := splitParts_append h cs
    by_cases hc : c = '/'
    · refine ⟨[] :: parts, part, ?_, ?_⟩
      · simp only [splitParts, hc, if_true, hcs, List.cons_append]
      · simp only [splitParts, hc, if_true, happend, List.cons_append]
    · cases parts with
      | nil =>
        refine ⟨[], c :: part, ?_, ?_⟩
        · simp only [splitParts, hc, if_false, hcs, List.nil_append]
        · simp only [splitParts, hc, if_false, happend, List.nil_append, List.cons_append]
      | cons first parts =>
        refine ⟨(c :: first) :: parts, part, ?_, ?_⟩
        · simp only [splitParts, hc, if_false, hcs, List.cons_append]
        · simp only [splitParts, hc, if_false, happend, List.cons_append]

/-- A part with a longer ending than two dots is a name. -/
theorem ofChars_append_tmp (part : List Char) :
    Part.ofChars (part ++ ['.', 't', 'm', 'p']) =
      .name (String.ofList (part ++ ['.', 't', 'm', 'p'])) := by
  have hlength : 4 ≤ (part ++ ['.', 't', 'm', 'p']).length := by
    rw [List.length_append]
    exact Nat.le_add_left 4 part.length
  generalize part ++ ['.', 't', 'm', 'p'] = cs at hlength
  unfold Part.ofChars
  split
  · exact absurd hlength (by decide)
  · exact absurd hlength (by decide)
  · exact absurd hlength (by decide)
  · rfl

theorem eq_of_ofChars {part : List Char} {n : String} (h : Part.ofChars part = .name n) :
    n = String.ofList part := by
  unfold Part.ofChars at h
  split at h
  · cases h
  · cases h
  · cases h
  · cases h
    rfl

/-- A path name and its temporary name differ in their last part only. -/
theorem ofString_temporary (path : String) : ∃ absolute way part,
    Path.ofString path = ⟨absolute, way, Part.ofChars part⟩ ∧
      Path.ofString (temporary path) =
        ⟨absolute, way, .name (String.ofList (part ++ ['.', 't', 'm', 'p']))⟩ := by
  have htmp : (temporary path).toList = path.toList ++ ['.', 't', 'm', 'p'] := by
    rw [temporary, String.toList_append]
    rfl
  have hslash : '/' ∉ ['.', 't', 'm', 'p'] := by decide
  obtain ⟨parts, part, hpath, happend⟩ := splitParts_append hslash path.toList
  have habsolute : (path.toList ++ ['.', 't', 'm', 'p']).head? = some '/' ↔
      path.toList.head? = some '/' := by
    cases path.toList with
    | nil => decide
    | cons c cs => exact Iff.rfl
  refine ⟨decide (path.toList.head? = some '/'), parts.map Part.ofChars, part, ?_, ?_⟩
  · simp only [Path.ofString, hpath, List.map_append, List.map_cons, List.map_nil,
      List.dropLast_concat, List.getLast?_concat, Option.getD_some]
  · simp only [Path.ofString, htmp, happend, List.map_append, List.map_cons, List.map_nil,
      List.dropLast_concat, List.getLast?_concat, Option.getD_some, ofChars_append_tmp, habsolute]

/-! ## 2. Where the temporary name leads -/

/-- **A file and its temporary name stand at different places.** -/
theorem Disk.locate_temporary_ne {d : Disk} {path : String} {l l' : Location}
    (h : d.locate path = .ok l) (h' : d.locate (temporary path) = .ok l') : l' ≠ l := by
  obtain ⟨absolute, way, part, hpath, htmp⟩ := ofString_temporary path
  simp only [locate, hpath, htmp] at h h'
  split at h
  · cases h
  · split at h'
    · cases h'
    · cases hwalk : d.walk (if absolute = true then [] else d.start) way with
      | error e =>
        rw [hwalk] at h
        cases h
      | ok here =>
        rw [hwalk] at h h'
        simp only at h h'
        split at h'
        · cases h'
        · cases h'
          intro e
          have hlength := congrArg List.length e
          rw [List.length_append, List.length_singleton] at hlength
          cases hpart : Part.ofChars part with
          | here =>
            rw [hpart] at h
            cases h
            omega
          | above =>
            rw [hpart] at h
            cases h
            rw [List.length_dropLast] at hlength
            omega
          | name n =>
            rw [hpart] at h
            simp only at h
            split at h
            · cases h
            · cases h
              have hname := (List.cons.inj (List.append_cancel_left e)).1
              rw [eq_of_ofChars hpart] at hname
              have := congrArg (fun s => s.toList.length) hname
              simp at this

/-- Where the temporary name leads somewhere, the file's own name does. -/
theorem Disk.locate_of_temporary {d : Disk} {path : String} {lt : Location}
    (h : d.locate (temporary path) = .ok lt) : ∃ l, d.locate path = .ok l := by
  obtain ⟨absolute, way, part, hpath, htmp⟩ := ofString_temporary path
  have hsize : (temporary path).utf8ByteSize = path.utf8ByteSize + 4 := by
    rw [temporary, String.utf8ByteSize_append]
    rfl
  have hpart : (String.ofList (part ++ ['.', 't', 'm', 'p'])).utf8ByteSize =
      (String.ofList part).utf8ByteSize + 4 := by
    rw [String.ofList_append, String.utf8ByteSize_append]
    rfl
  simp only [locate, hpath, htmp] at h ⊢
  split at h
  · cases h
  · rename_i hlong
    rw [if_neg (by omega)]
    cases hwalk : d.walk (if absolute = true then [] else d.start) way with
    | error e =>
      rw [hwalk] at h
      cases h
    | ok here =>
      rw [hwalk] at h
      simp only at h ⊢
      split at h
      · cases h
      · rename_i hname
        cases hlast : Part.ofChars part with
        | here => exact ⟨here, rfl⟩
        | above => exact ⟨here.dropLast, rfl⟩
        | name n =>
          refine ⟨here ++ [n], if_neg ?_⟩
          rw [eq_of_ofChars hlast]
          omega

end RadarCatalog.Files
