import RadarCatalog.Json.Printer
import RadarCatalog.Json.Token

/-!
# What the scanner makes of a text

`Token.scan` folds the scanner over a text. Here the same tokens are given by a recursion on the
text, and three relations say what a piece of text does wherever it stands:

* `Moves s cs s'`: the piece takes the scanner from one state to another and completes no token;
* `Emits cs ts`: between tokens, the piece is exactly some tokens;
* `Reads cs ts`: the same in front of a text that cannot go on with a number.
-/

namespace RadarCatalog.Json

open RadarCatalog.Numeric

/-! ## 1. Tokens by recursion on the text -/

/-- The tokens of a text from a state on. -/
def Scan.tokens : Scan → List Char → List Token
  | scan, [] => scan.finish
  | scan, c :: cs => (scan.step c).1 ++ (scan.step c).2.tokens cs

theorem Scan.foldl_advance (cs : List Char) : ∀ (done : List Token) (scan : Scan),
    (cs.foldl Scan.advance (done, scan)).1.reverse ++
        (cs.foldl Scan.advance (done, scan)).2.finish =
      done.reverse ++ scan.tokens cs := by
  induction cs with
  | nil =>
    intro done scan
    rfl
  | cons c cs ih =>
    intro done scan
    have e : Scan.advance (done, scan) c = ((scan.step c).1.reverse ++ done, (scan.step c).2) := rfl
    rw [List.foldl_cons, e, ih, List.reverse_append, List.reverse_reverse, List.append_assoc]
    rfl

/-- **The scan of a text** by recursion on the text. -/
theorem scan_eq_tokens (cs : List Char) : Token.scan cs = Scan.between.tokens cs :=
  Scan.foldl_advance cs [] .between

/-! ## 2. Silent moves -/

/-- The piece of text takes the scanner from the first state to the second without a token. -/
def Moves (s : Scan) (cs : List Char) (s' : Scan) : Prop :=
  ∀ rest, s.tokens (cs ++ rest) = s'.tokens rest

theorem Moves.refl (s : Scan) : Moves s [] s := fun _ => rfl

theorem Moves.trans {s s' s'' : Scan} {cs ds : List Char} (h : Moves s cs s')
    (h' : Moves s' ds s'') : Moves s (cs ++ ds) s'' := by
  intro rest
  rw [List.append_assoc, h, h']

/-- One character that completes nothing. -/
theorem Moves.single {s s' : Scan} {c : Char} (h : s.step c = ([], s')) : Moves s [c] s' := by
  intro rest
  show (s.step c).1 ++ (s.step c).2.tokens rest = _
  rw [h]
  rfl

theorem Moves.cons {s s' s'' : Scan} {c : Char} {cs : List Char} (h : s.step c = ([], s'))
    (h' : Moves s' cs s'') : Moves s (c :: cs) s'' :=
  (Moves.single h).trans h'

/-! ## 3. Tokens -/

/-- The text does not go on with a number that stands in front of it. -/
def Ends (cs : List Char) : Prop :=
  ∀ c ∈ cs.head?, isDigit c = false ∧ c ≠ '.' ∧ c ≠ 'e' ∧ c ≠ 'E'

theorem Ends.append {cs ds : List Char} (h : Ends cs) (h' : Ends ds) : Ends (cs ++ ds) := by
  cases cs with
  | nil => exact h'
  | cons c cs => exact h

/-- Between tokens the piece of text is exactly these tokens. -/
def Emits (cs : List Char) (ts : List Token) : Prop :=
  ∀ rest, Scan.between.tokens (cs ++ rest) = ts ++ Scan.between.tokens rest

/-- Between tokens, and in front of a text that ends a number, the piece is exactly these
    tokens. -/
def Reads (cs : List Char) (ts : List Token) : Prop :=
  ∀ rest, Ends rest → Scan.between.tokens (cs ++ rest) = ts ++ Scan.between.tokens rest

theorem Emits.reads {cs : List Char} {ts : List Token} (h : Emits cs ts) : Reads cs ts :=
  fun rest _ => h rest

theorem Emits.nil : Emits [] [] := fun _ => rfl

theorem Emits.append {cs ds : List Char} {ts us : List Token} (h : Emits cs ts)
    (h' : Emits ds us) : Emits (cs ++ ds) (ts ++ us) := by
  intro rest
  rw [List.append_assoc, h, h', List.append_assoc]

theorem Emits.append_reads {cs ds : List Char} {ts us : List Token} (h : Emits cs ts)
    (h' : Reads ds us) : Reads (cs ++ ds) (ts ++ us) := by
  intro rest hr
  rw [List.append_assoc, h, h' rest hr, List.append_assoc]

theorem Reads.append {cs ds : List Char} {ts us : List Token} (h : Reads cs ts)
    (h' : Reads ds us) (hd : Ends ds) : Reads (cs ++ ds) (ts ++ us) := by
  intro rest hr
  rw [List.append_assoc, h _ (hd.append hr), h' rest hr, List.append_assoc]

/-- A piece that ends a number by its own first character does so whatever follows it. -/
theorem Reads.append_emits {cs ds : List Char} {ts us : List Token} (h : Reads cs ts)
    (h' : Emits ds us) (hd : Ends ds) (hne : ds ≠ []) : Emits (cs ++ ds) (ts ++ us) := by
  intro rest
  have he : Ends (ds ++ rest) := by
    cases ds with
    | nil => exact absurd rfl hne
    | cons c ds => exact hd
  rw [List.append_assoc, h _ he, h' rest, List.append_assoc]

/-- A text that is read as some tokens has these tokens. -/
theorem Reads.scan {cs : List Char} {ts : List Token} (h : Reads cs ts) : Token.scan cs = ts := by
  have := h [] (by intro c hc; cases hc)
  rw [List.append_nil] at this
  rw [scan_eq_tokens, this]
  exact List.append_nil ts

/-- A state that completes its tokens with one more character. -/
theorem tokens_of_step {s : Scan} {c : Char} {ts : List Token} (h : s.step c = (ts, .between))
    (rest : List Char) : s.tokens (c :: rest) = ts ++ Scan.between.tokens rest := by
  show (s.step c).1 ++ (s.step c).2.tokens rest = _
  rw [h]

/-- A character that is some tokens by itself, or none. -/
theorem Emits.single (c : Char) (ts : List Token) (h : Scan.start c = (ts, .between)) :
    Emits [c] ts :=
  fun rest => tokens_of_step (s := .between) h rest

theorem Emits.cons (c : Char) (ts : List Token) {cs : List Char} {us : List Token}
    (h : Scan.start c = (ts, .between)) (h' : Emits cs us) : Emits (c :: cs) (ts ++ us) :=
  (Emits.single c ts h).append h'

/-- Characters between tokens that are none. -/
theorem Emits.blanks (n : Nat) : Emits (List.replicate n ' ') [] := by
  induction n with
  | zero => exact Emits.nil
  | succ n ih => exact Emits.cons ' ' [] rfl ih

/-! ## 4. The words -/

theorem emits_null : Emits ['n', 'u', 'l', 'l'] [.scalar .null] := fun _ => rfl

theorem emits_true : Emits ['t', 'r', 'u', 'e'] [.scalar (.bool true)] := fun _ => rfl

theorem emits_false : Emits ['f', 'a', 'l', 's', 'e'] [.scalar (.bool false)] := fun _ => rfl

end RadarCatalog.Json
