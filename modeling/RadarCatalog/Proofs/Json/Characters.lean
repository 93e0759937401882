import RadarCatalog.Json.Printer

/-!
# The characters of printed texts

A printed string escapes the control characters below the space, and `asciiOnly` whatever is beyond
ASCII, so what is left is plain.

* `escapeChar_cases`: an escape is plain, or the character itself;
* `isPlain_of_mem_asciiOnly`: a text without control characters is plain once it is ASCII.
-/

namespace RadarCatalog.Json

open RadarCatalog.Text

/-! ## 1. Plain characters -/

/-- The character is ASCII, and none of the control characters below the space. -/
def isPlain (c : Char) : Bool := 0x20 ≤ c.toNat && c.toNat < 128

theorem isAscii_of_isPlain {c : Char} (h : isPlain c = true) : isAscii c = true := by
  simp only [isPlain, Bool.and_eq_true, decide_eq_true_eq] at h
  simp only [isAscii, decide_eq_true_eq]
  exact h.2

theorem isPlain_of_isAscii {c : Char} (h : isAscii c = true) (hspace : 0x20 ≤ c.toNat) :
    isPlain c = true := by
  simp only [isAscii, decide_eq_true_eq] at h
  simp only [isPlain, Bool.and_eq_true, decide_eq_true_eq]
  exact ⟨hspace, h⟩

theorem isPlain_hexChar : ∀ d, d < 16 → isPlain (hexChar d) = true := by decide

theorem isPlain_of_mem_unitEscape {u : Nat} {c : Char} (h : c ∈ unitEscape u) :
    isPlain c = true := by
  simp only [unitEscape, hexFour, List.mem_cons, List.not_mem_nil, or_false] at h
  rcases h with rfl | rfl | rfl | rfl | rfl | rfl
  · rfl
  · rfl
  · exact isPlain_hexChar _ (by omega)
  · exact isPlain_hexChar _ (by omega)
  · exact isPlain_hexChar _ (by omega)
  · exact isPlain_hexChar _ (by omega)

/-! ## 2. Printed strings -/

/-- The escape of a character is plain, or the character itself where that is no control
    character. -/
theorem escapeChar_cases (c : Char) :
    (∀ a ∈ escapeChar c, isPlain a = true) ∨ (escapeChar c = [c] ∧ 0x20 ≤ c.toNat) := by
  unfold escapeChar
  split
  · exact Or.inl (List.all_eq_true.1 (by decide))
  split
  · exact Or.inl (List.all_eq_true.1 (by decide))
  split
  · exact Or.inl (List.all_eq_true.1 (by decide))
  split
  · exact Or.inl (List.all_eq_true.1 (by decide))
  split
  · exact Or.inl (List.all_eq_true.1 (by decide))
  split
  · exact Or.inl (List.all_eq_true.1 (by decide))
  split
  · exact Or.inl (List.all_eq_true.1 (by decide))
  split
  · exact Or.inl fun a ha => isPlain_of_mem_unitEscape (u := c.toNat) ha
  · rename_i hspace
    exact Or.inr ⟨rfl, Nat.le_of_not_lt hspace⟩

/-- A printed string has no control characters. -/
theorem space_le_of_mem_printString {s : String} : ∀ c ∈ printString s, 0x20 ≤ c.toNat := by
  intro c hc
  simp only [printString, List.mem_append, List.mem_cons, List.mem_flatMap, List.not_mem_nil,
    or_false] at hc
  rcases hc with (rfl | ⟨a, _, hc⟩) | rfl
  · decide
  · rcases escapeChar_cases a with he | ⟨he, hspace⟩
    · have hplain := he c hc
      simp only [isPlain, Bool.and_eq_true, decide_eq_true_eq] at hplain
      exact hplain.1
    · rw [he] at hc
      obtain rfl := List.mem_singleton.1 hc
      exact hspace
  · decide

/-- A text without control characters is plain once it is ASCII. -/
theorem isPlain_of_mem_asciiOnly {cs : List Char} (h : ∀ c ∈ cs, 0x20 ≤ c.toNat) :
    ∀ c ∈ asciiOnly cs, isPlain c = true := by
  intro c hc
  obtain ⟨a, ha, hc⟩ := List.mem_flatMap.1 hc
  split at hc
  · rename_i hascii
    obtain rfl := List.mem_singleton.1 hc
    exact isPlain_of_isAscii hascii (h c ha)
  · obtain ⟨u, _, hc⟩ := List.mem_flatMap.1 hc
    exact isPlain_of_mem_unitEscape hc

end RadarCatalog.Json
