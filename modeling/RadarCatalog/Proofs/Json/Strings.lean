import RadarCatalog.Proofs.Json.Characters
import RadarCatalog.Proofs.Json.Scan

/-!
# Strings in a JSON text

Inside a string the scanner takes what is written for a character back to that character: the
short escapes, the escape of a UTF-16 unit, the two escapes of a surrogate pair, and the character
itself. A `Spelling` is a way to write the characters beyond ASCII that has this property; writing
them as they are is one, and writing them as escapes of their units is another.

* `units16_cases`: the units of a character are its code, or a surrogate pair;
* `moves_unitEscape`, `moves_units16`: escapes of units are read back to their character;
* `spelling_plain`, `spelling_ascii`: the two spellings;
* `emits_printString`: a printed string is its token, in every spelling.
-/

namespace RadarCatalog.Json

open RadarCatalog.Text

/-! ## 1. Escapes of units -/

theorem utf8Size_hexChar : ∀ d, d < 16 → (hexChar d).utf8Size = 1 := by decide

theorem step_unit {d : Nat} (hd : d < 16) (text : List Char) (high : Option Nat) (bytes n : Nat)
    (hb : bytes + 1 < 4) : (Scan.unit text high bytes (some n)).step (hexChar d) =
      ([], .unit text high (bytes + 1) (some (16 * n + d))) := by
  simp only [Scan.step, utf8Size_hexChar d hd, hexValue?_hexChar d hd, Option.bind_some,
    Option.map_some, if_pos hb]

theorem step_unit_last {d : Nat} (hd : d < 16) (text : List Char) (high : Option Nat) (n : Nat) :
    (Scan.unit text high 3 (some n)).step (hexChar d) =
      Scan.afterUnit text high (16 * n + d) := by
  simp only [Scan.step, utf8Size_hexChar d hd, hexValue?_hexChar d hd, Option.bind_some,
    Option.map_some, Nat.reduceAdd, Nat.lt_irrefl, if_false]

/-- Four hexadecimal digits do what their unit does. -/
theorem moves_hexFour {text : List Char} {high : Option Nat} {n : Nat} {s : Scan}
    (hn : n < 0x10000) (hs : Scan.afterUnit text high n = ([], s)) :
    Moves (.unit text high 0 (some 0)) (hexFour n) s := by
  have e :
      16 * (16 * (16 * (16 * 0 + n / 4096 % 16) + n / 256 % 16) + n / 16 % 16) + n % 16 = n := by
    omega
  refine Moves.cons (step_unit (by omega) _ _ _ _ (by omega)) (Moves.cons
    (step_unit (by omega) _ _ _ _ (by omega)) (Moves.cons
      (step_unit (by omega) _ _ _ _ (by omega)) (Moves.single ?_)))
  rw [step_unit_last (by omega), e, hs]

/-- The escape of a unit inside a string. -/
theorem moves_unitEscape {text : List Char} {n : Nat} {s : Scan} (hn : n < 0x10000)
    (hs : Scan.afterUnit text none n = ([], s)) : Moves (.string text) (unitEscape n) s :=
  Moves.cons (c := '\\') rfl (Moves.cons (c := 'u') rfl (moves_hexFour hn hs))

/-- The escape of a unit behind a high surrogate. -/
theorem moves_pairEscape {text : List Char} {high n : Nat} {s : Scan} (hn : n < 0x10000)
    (hs : Scan.afterUnit text (some high) n = ([], s)) :
    Moves (.pairSlash text high) (unitEscape n) s :=
  Moves.cons (c := '\\') rfl (Moves.cons (c := 'u') rfl (moves_hexFour hn hs))

/-- The codes of characters leave out the surrogates. -/
theorem toNat_cases (c : Char) :
    c.toNat < 0xD800 ∨ (0xDFFF < c.toNat ∧ c.toNat < 0x110000) := c.valid

theorem afterUnit_char (text : List Char) (c : Char) :
    Scan.afterUnit text none c.toNat = ([], .string (c :: text)) := by
  have hc := toNat_cases c
  have hlow : isLowSurrogate c.toNat = false := by
    simp only [isLowSurrogate, ← Bool.decide_and, decide_eq_false_iff_not]
    omega
  have hhigh : isHighSurrogate c.toNat = false := by
    simp only [isHighSurrogate, ← Bool.decide_and, decide_eq_false_iff_not]
    omega
  simp only [Scan.afterUnit, hlow, hhigh, Bool.false_eq_true, if_false, Char.ofNat_toNat]

/-- **The units of a character**: its code, or a high and a low surrogate that share the code between
    them. -/
theorem units16_cases (c : Char) : (c.toNat < 0x10000 ∧ units16 c = [c.toNat]) ∨
    ∃ high low, (0xD800 ≤ high ∧ high ≤ 0xDBFF) ∧ (0xDC00 ≤ low ∧ low ≤ 0xDFFF) ∧
      c.toNat = 0x10000 + (high - 0xD800) * 0x400 + (low - 0xDC00) ∧ units16 c = [high, low] := by
  have hc := toNat_cases c
  by_cases h : c.toNat < 0x10000
  · exact .inl ⟨h, by rw [units16, if_pos h]⟩
  · refine .inr ⟨0xD800 + (c.toNat - 0x10000) / 0x400, 0xDC00 + (c.toNat - 0x10000) % 0x400, ?_, ?_,
      ?_, by rw [units16, if_neg h]⟩
    · omega
    · omega
    · omega

/-- **The escapes of a character's units are read back to the character.** -/
theorem moves_units16 (text : List Char) (c : Char) :
    Moves (.string text) ((units16 c).flatMap unitEscape) (.string (c :: text)) := by
  rcases units16_cases c with ⟨hshort, hunits⟩ | ⟨high, low, hhigh, hlow, hcode, hunits⟩
  · rw [hunits, List.flatMap_singleton]
    exact moves_unitEscape hshort (afterUnit_char text c)
  · have hfirst : isLowSurrogate high = false := by
      simp only [isLowSurrogate, ← Bool.decide_and, decide_eq_false_iff_not]
      omega
    have hopens : isHighSurrogate high = true := by
      simpa only [isHighSurrogate, ← Bool.decide_and, decide_eq_true_eq] using hhigh
    have hcloses : isLowSurrogate low = true := by
      simpa only [isLowSurrogate, ← Bool.decide_and, decide_eq_true_eq] using hlow
    have h1 : Scan.afterUnit text none high = ([], .pairSlash text high) := by
      simp only [Scan.afterUnit, hfirst, hopens, Bool.false_eq_true, if_false, if_true]
    have h2 : Scan.afterUnit text (some high) low = ([], .string (c :: text)) := by
      simp only [Scan.afterUnit, hcloses, if_true, joinPair, ← hcode, Char.ofNat_toNat]
    rw [hunits]
    show Moves _ (unitEscape high ++ (unitEscape low ++ [])) _
    rw [List.append_nil]
    exact (moves_unitEscape (by omega) h1).trans (moves_pairEscape (by omega) h2)

/-! ## 2. Escapes of characters -/

theorem moves_short {c e : Char} (text : List Char) (he : e ≠ 'u') (h : escaped? e = some c) :
    Moves (.string text) ['\\', e] (.string (c :: text)) :=
  Moves.cons (c := '\\') rfl (Moves.single (by simp only [Scan.step, if_neg he, h]))

/-- What is written for a character in a string is read back to the character. -/
theorem moves_escapeChar (text : List Char) (c : Char) :
    Moves (.string text) (escapeChar c) (.string (c :: text)) := by
  unfold escapeChar
  split
  · rename_i h
    subst h
    exact moves_short text (by decide) rfl
  split
  · rename_i h
    subst h
    exact moves_short text (by decide) rfl
  split
  · rename_i h
    subst h
    exact moves_short text (by decide) rfl
  split
  · rename_i h
    subst h
    exact moves_short text (by decide) rfl
  split
  · rename_i h
    subst h
    exact moves_short text (by decide) rfl
  split
  · rename_i h
    subst h
    exact moves_short text (by decide) rfl
  split
  · rename_i h
    subst h
    exact moves_short text (by decide) rfl
  split
  · rename_i h
    exact moves_unitEscape (by omega) (afterUnit_char text c)
  · rename_i hquote hslash _ _ _ _ _ hcontrol
    apply Moves.single
    simp only [Scan.step, if_neg hquote, if_neg hslash, if_neg hcontrol]

/-! ## 3. Spellings -/

/-- A way to write characters: ASCII ones as they are, and the others so that a string that holds
    them is read back. -/
structure Spelling (write : Char → List Char) : Prop where
  ascii : ∀ c, isAscii c = true → write c = [c]
  other : ∀ c, isAscii c = false → ∀ text, Moves (.string text) (write c) (.string (c :: text))

/-- A text without characters beyond ASCII is written as it is. -/
theorem Spelling.flatMap {write : Char → List Char} (h : Spelling write) :
    ∀ cs : List Char, (∀ c ∈ cs, isAscii c = true) → cs.flatMap write = cs
  | [], _ => rfl
  | c :: cs, hc => by
    rw [List.flatMap_cons, h.ascii c (hc c (List.mem_cons_self ..)),
      h.flatMap cs fun a ha => hc a (List.mem_cons_of_mem _ ha)]
    rfl

theorem spelling_plain : Spelling fun c => [c] where
  ascii _ _ := rfl
  other c hc text := by
    apply Moves.single
    have hcode : 128 ≤ c.toNat := by
      simpa [isAscii] using hc
    have hquote : c ≠ '"' := by
      rintro rfl
      exact absurd hc (by decide)
    have hslash : c ≠ '\\' := by
      rintro rfl
      exact absurd hc (by decide)
    simp only [Scan.step, if_neg hquote, if_neg hslash, if_neg (by omega : ¬ c.toNat < 0x20)]

/-- A character as an ASCII text holds it. -/
def asciiChar (c : Char) : List Char :=
  if isAscii c then [c] else (units16 c).flatMap unitEscape

theorem asciiOnly_eq (cs : List Char) : asciiOnly cs = cs.flatMap asciiChar := rfl

theorem spelling_ascii : Spelling asciiChar where
  ascii c hc := if_pos hc
  other c hc text := by
    have e : asciiChar c = (units16 c).flatMap unitEscape := by
      rw [asciiChar, hc]
      exact if_neg Bool.false_ne_true
    rw [e]
    exact moves_units16 text c

/-- The escape of a character is read back in every spelling. -/
theorem Spelling.moves_escape {write : Char → List Char} (h : Spelling write) (text : List Char)
    (c : Char) : Moves (.string text) ((escapeChar c).flatMap write) (.string (c :: text)) := by
  rcases escapeChar_cases c with he | ⟨he, _⟩
  · rw [h.flatMap _ fun a ha => isAscii_of_isPlain (he a ha)]
    exact moves_escapeChar text c
  · rw [he, List.flatMap_singleton]
    cases hc : isAscii c with
    | true =>
      rw [h.ascii c hc, ← he]
      exact moves_escapeChar text c
    | false => exact h.other c hc text

theorem Spelling.moves_string {write : Char → List Char} (h : Spelling write) :
    ∀ cs text : List Char, Moves (.string text) ((cs.flatMap escapeChar).flatMap write)
      (.string (cs.reverse ++ text))
  | [], text => Moves.refl _
  | c :: cs, text => by
    rw [List.flatMap_cons, List.flatMap_append, List.reverse_cons, List.append_assoc]
    exact (h.moves_escape text c).trans (h.moves_string cs (c :: text))

/-- **A printed string is its token**, in every spelling. -/
theorem emits_printString {write : Char → List Char} (h : Spelling write) (s : String) :
    Emits ((printString s).flatMap write) [.scalar (.string s)] := by
  intro rest
  have hquote : write '"' = ['"'] := h.ascii '"' rfl
  have hm := h.moves_string s.toList []
  rw [printString, List.cons_append, List.flatMap_cons, List.flatMap_append,
    List.flatMap_singleton, hquote]
  show Scan.tokens (.string []) ((s.toList.flatMap escapeChar).flatMap write ++ ['"'] ++ rest) = _
  have hstep : (Scan.string s.toList.reverse).step '"' = ([.scalar (.string s)], .between) := by
    simp [Scan.step, String.ofList_toList]
  rw [List.append_assoc, hm, List.append_nil]
  exact tokens_of_step hstep rest

end RadarCatalog.Json
