import RadarCatalog.Proofs.Json.Reading

/-!
# ASCII texts are read alike

`asciiOnly` rewrites a printed text character by character and knows nothing of where strings or
escapes begin. No reader can tell: both texts are scanned as the tokens of the value.

* `Written` is what stands for a character in the new text, `Rewritten` relates the texts as a whole;
* `rewritten_asciiOnly`: this much holds of every text;
* `reads_compact`: a value printed without white space is read as its tokens, as a pretty one is;
* `Value.PrintedAs` are the texts of a value, `scan_printed` and `scan_asciiOnly` their tokens;
* `asciiOnly_invisible`: a printed text and its ASCII form are read alike, and as the value.
-/

namespace RadarCatalog.Json

/-! ## 1. The new text -/

/-- What is written for a character: itself, the escape of its code, or the escapes of the high and
    the low surrogate that share its code between them. -/
inductive Written : Char → List Char → Prop where
  | plain {c : Char} (ascii : isAscii c = true) : Written c [c]
  | unit {c : Char} (beyond : isAscii c = false) (short : c.toNat ≤ 0xFFFF) :
      Written c (unitEscape c.toNat)
  | pair {c : Char} {high low : Nat} (first : 0xD800 ≤ high ∧ high ≤ 0xDBFF)
      (second : 0xDC00 ≤ low ∧ low ≤ 0xDFFF)
      (code : c.toNat = 0x10000 + (high - 0xD800) * 0x400 + (low - 0xDC00)) :
      Written c (unitEscape high ++ unitEscape low)

theorem written_asciiChar (c : Char) : Written c (asciiChar c) := by
  by_cases h : isAscii c = true
  · rw [asciiChar, if_pos h]
    exact .plain h
  · rw [asciiChar, if_neg h]
    rcases units16_cases c with ⟨hshort, hunits⟩ | ⟨high, low, hhigh, hlow, hcode, hunits⟩
    · rw [hunits, List.flatMap_singleton]
      exact .unit (by simpa using h) (Nat.le_of_lt_succ hshort)
    · rw [hunits]
      show Written c (unitEscape high ++ (unitEscape low ++ []))
      rw [List.append_nil]
      exact .pair hhigh hlow hcode

/-- The second text is ASCII, and the first one only if nothing is new in it. It is made of pieces that
    stand for the characters in their order, so the ASCII characters are kept in theirs. -/
structure Rewritten (text new : List Char) : Prop where
  ascii : ∀ c ∈ new, isAscii c = true
  unchanged : new = text ↔ ∀ c ∈ text, isAscii c = true
  kept : (text.filter isAscii).Sublist new
  pieces : ∃ pieces, List.Forall₂ Written text pieces ∧ new = pieces.flatten

theorem isAscii_of_mem_asciiOnly {c : Char} {text : List Char} (h : c ∈ asciiOnly text) :
    isAscii c = true := by
  obtain ⟨a, _, hc⟩ := List.mem_flatMap.1 h
  by_cases ha : isAscii a = true
  · rw [if_pos ha] at hc
    obtain rfl := List.mem_singleton.1 hc
    exact ha
  · rw [if_neg ha] at hc
    obtain ⟨u, _, hu⟩ := List.mem_flatMap.1 hc
    exact isAscii_of_isPlain (isPlain_of_mem_unitEscape hu)

/-- The ASCII characters of a text stand in its ASCII form, in the same order. -/
theorem filter_sublist_asciiOnly : ∀ text : List Char,
    (text.filter isAscii).Sublist (asciiOnly text)
  | [] => List.Sublist.refl []
  | c :: text => by
    have hrest := filter_sublist_asciiOnly text
    rw [asciiOnly_eq] at hrest ⊢
    rw [List.flatMap_cons]
    by_cases h : isAscii c = true
    · rw [List.filter_cons_of_pos h, asciiChar, if_pos h]
      exact hrest.cons_cons c
    · rw [List.filter_cons_of_neg h]
      exact hrest.trans (List.sublist_append_right _ _)

theorem rewritten_asciiOnly (text : List Char) : Rewritten text (asciiOnly text) where
  ascii := fun _ hc => isAscii_of_mem_asciiOnly hc
  unchanged := by
    refine ⟨fun h c hc => ?_, spelling_ascii.flatMap text⟩
    rw [← h] at hc
    exact isAscii_of_mem_asciiOnly hc
  kept := filter_sublist_asciiOnly text
  pieces := by
    refine ⟨text.map asciiChar, ?_, by rw [asciiOnly_eq, List.flatMap]⟩
    rw [List.forall₂_map_right_iff, List.forall₂_same]
    exact fun c _ => written_asciiChar c

/-! ## 2. Compact texts -/

section Compact

variable {write : Char → List Char} (h : Spelling write)
include h

theorem ends_compactItems (vs : List Value) : Ends ((compactItems vs).flatMap write) := by
  cases vs with
  | nil => exact ends_nil
  | cons v vs =>
    rw [compactItems]
    exact h.ends_comma _

theorem ends_compactMembers (fs : List (String × Value)) :
    Ends ((compactMembers fs).flatMap write) := by
  cases fs with
  | nil => exact ends_nil
  | cons f fs =>
    rw [compactMembers]
    exact h.ends_comma _

mutual

/-- **A value printed without white space is read as its tokens.** -/
theorem reads_compact : ∀ v : Value, Reads (v.compact.flatMap write) v.tokens
  | .scalar s => by
    simp only [Value.compact, Value.tokens]
    exact reads_scalar h s
  | .list [] => by
    simp only [Value.compact, Value.tokens, List.flatMap_cons, List.flatMap_nil, h.ascii '[' rfl,
      h.ascii ']' rfl]
    exact (Emits.cons '[' [.listStart] rfl (Emits.single ']' [.listEnd] rfl)).reads
  | .list (v :: vs) => by
    have hitems := (reads_compact v).append (reads_compactItems vs) (ends_compactItems h vs)
    have hclose := Emits.single ']' [.listEnd] rfl
    have hall := (Emits.single '[' [.listStart] rfl).append_reads
      (hitems.append hclose.reads (ends_cons (by decide)))
    simp only [Value.compact, Value.tokens, List.flatMap_cons, List.flatMap_append, List.flatMap_nil,
      h.ascii '[' rfl, h.ascii ']' rfl, List.cons_append, List.append_assoc, List.nil_append,
      List.append_nil] at hall ⊢
    exact hall
  | .object [] => by
    simp only [Value.compact, Value.tokens, List.flatMap_cons, List.flatMap_nil, h.ascii '{' rfl,
      h.ascii '}' rfl]
    exact (Emits.cons '{' [.objectStart] rfl (Emits.single '}' [.objectEnd] rfl)).reads
  | .object ((k, v) :: fs) => by
    have hmembers := (reads_keyed h k (reads_compact v)).append (reads_compactMembers fs)
      (ends_compactMembers h fs)
    have hclose := Emits.single '}' [.objectEnd] rfl
    have hall := (Emits.single '{' [.objectStart] rfl).append_reads
      (hmembers.append hclose.reads (ends_cons (by decide)))
    simp only [Value.compact, Value.tokens, List.flatMap_cons, List.flatMap_append, List.flatMap_nil,
      h.ascii '{' rfl, h.ascii '}' rfl, h.ascii ':' rfl, List.cons_append, List.append_assoc,
      List.nil_append, List.append_nil] at hall ⊢
    exact hall

theorem reads_compactItems : ∀ vs : List Value,
    Reads ((compactItems vs).flatMap write) (itemTokens vs)
  | [] => by
    simp only [compactItems, itemTokens]
    exact Emits.nil.reads
  | v :: vs => by
    have hitems := (reads_compact v).append (reads_compactItems vs) (ends_compactItems h vs)
    have hall := (Emits.single ',' [.comma] rfl).append_reads hitems
    simp only [compactItems, itemTokens, List.flatMap_cons, List.flatMap_append, h.ascii ',' rfl,
      List.cons_append, List.nil_append] at hall ⊢
    exact hall

theorem reads_compactMembers : ∀ fs : List (String × Value),
    Reads ((compactMembers fs).flatMap write) (memberTokens fs)
  | [] => by
    simp only [compactMembers, memberTokens]
    exact Emits.nil.reads
  | (k, v) :: fs => by
    have hmembers := (reads_keyed h k (reads_compact v)).append (reads_compactMembers fs)
      (ends_compactMembers h fs)
    have hall := (Emits.single ',' [.comma] rfl).append_reads hmembers
    simp only [compactMembers, memberTokens, List.flatMap_cons, List.flatMap_append, h.ascii ',' rfl,
      h.ascii ':' rfl, List.cons_append, List.append_assoc, List.nil_append] at hall ⊢
    exact hall

end

end Compact

/-! ## 3. The texts of a value -/

/-- The texts that a value is printed as: without white space, or with some indentation. -/
inductive Value.PrintedAs (v : Value) : List Char → Prop where
  | compact : v.PrintedAs v.compact
  | pretty (indent : Nat) : v.PrintedAs (v.pretty indent)

section Printed

variable {v : Value} {text : List Char} (h : v.PrintedAs text)
include h

/-- A printed text has the tokens of the value, in every spelling. -/
theorem scan_printed_spelling {write : Char → List Char} (hwrite : Spelling write) :
    Token.scan (text.flatMap write) = v.tokens := by
  cases h with
  | compact => exact (reads_compact hwrite v).scan
  | pretty indent => exact (reads_pretty hwrite indent v).scan

theorem scan_printed : Token.scan text = v.tokens := by
  have hscan := scan_printed_spelling h spelling_plain
  rwa [List.flatMap_singleton'] at hscan

theorem scan_asciiOnly : Token.scan (asciiOnly text) = v.tokens :=
  scan_printed_spelling h spelling_ascii

/-- A reader gets the same from both texts, whatever it wants. -/
theorem read_asciiOnly (shape : Shape) :
    read shape (String.ofList (asciiOnly text)) = read shape (String.ofList text) := by
  rw [read, read, String.toList_ofList, String.toList_ofList, scan_asciiOnly h, scan_printed h]

end Printed

/-- **Escapes are invisible to a reader.** The ASCII form of a printed text has a surrogate pair for
    every character beyond the first plane, one escape for every other one beyond ASCII, and all the
    rest in its place. Either text is read as the other, whether that succeeds or fails; and as the
    value that was printed, if its objects list each key once, as objects do, and it is not too deep
    for any reader. -/
theorem asciiOnly_invisible {v : Value} {text : List Char} (h : v.PrintedAs text) :
    Rewritten text (asciiOnly text) ∧
      (∀ shape, read shape (String.ofList (asciiOnly text)) = read shape (String.ofList text)) ∧
      (v.Proper → v.depth ≤ maxDepth →
        read .any (String.ofList (asciiOnly text)) = .ok v ∧
          read .any (String.ofList text) = .ok v) := by
  refine ⟨rewritten_asciiOnly text, read_asciiOnly h, ?_⟩
  intro hproper hdepth
  have hread : read .any (String.ofList text) = .ok v :=
    read_of_scan (by rw [String.toList_ofList, scan_printed h]) trivial hproper hdepth
  exact ⟨(read_asciiOnly h .any).trans hread, hread⟩

/-- A key and a string where other characters follow an escaped backslash, an escaped quote, and one
    another. -/
def unicodeValue : Value :=
  .object [("\\é\"🛰🛰", .list [.scalar (.string "\"ü\\🛰🛰"), .object []]), ("a", .scalar .null)]

theorem asciiOnly_invisible_example :
    asciiOnly unicodeValue.compact =
        ("\x7b\"\\\\\\u00e9\\\"\\ud83d\\udef0\\ud83d\\udef0\":[\"\\\"\\u00fc\\\\\\ud83d\\udef0" ++
          "\\ud83d\\udef0\",\x7b\x7d],\"a\":null\x7d").toList ∧
      read .any (String.ofList (asciiOnly unicodeValue.compact)) = .ok unicodeValue ∧
      read .any (String.ofList (asciiOnly (unicodeValue.pretty 2))) = .ok unicodeValue := by
  have hproper : unicodeValue.Proper := by
    simp [unicodeValue, Value.Proper, properItems, properMembers, Fields.Distinct, Fields.keys]
  have hdepth : unicodeValue.depth ≤ maxDepth := by
    simp [unicodeValue, Value.depth, depthItems, depthMembers, maxDepth]
  refine ⟨by decide, ?_, ?_⟩
  · exact ((asciiOnly_invisible .compact).2.2 hproper hdepth).1
  · exact ((asciiOnly_invisible (.pretty 2)).2.2 hproper hdepth).1

end RadarCatalog.Json
