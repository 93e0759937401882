import RadarCatalog.Catalog.Coordinates
import RadarCatalog.Proofs.Json.Numbers
import RadarCatalog.Proofs.Json.SameValue
import RadarCatalog.Proofs.Outcome
import RadarCatalog.Proofs.Text.Lines

/-!
# Reading a coordinate listing

A listing is read line by line: up to the space the latitude, behind it the longitude, each a
number and a letter, where `S` and `W` stand for the opposite number. What is read is equal to what
was listed, so that a listing loses nothing but the sign of a zero.

* `negated?_magnitude`: a number that is not above zero is the opposite of its magnitude;
* `readLine?_positionText`: what is read from a line;
* `exists_coordinates`, `coordinates_eq_error`: every record has a line, or the first one without a
  line is the error;
* `lines_of_coordinates`: a listing by its lines;
* `coordinates_faithful`: all of it.
-/

namespace RadarCatalog.Json

/-! ## 1. Magnitudes and opposites -/

theorem Integer.lower_natAbs (z : Integer) : -0x8000000000000000 ≤ (z.val.natAbs : Int) := by omega

/-- The magnitude of the least integer is in range as well. -/
theorem Integer.upper_natAbs (z : Integer) : (z.val.natAbs : Int) < 0x10000000000000000 := by
  have hlower := z.lower
  have hupper := z.upper
  omega

/-- The magnitude as a number. -/
def Number.magnitude : Number → Number
  | .integer z => .integer ⟨z.val.natAbs, z.lower_natAbs, z.upper_natAbs⟩
  | .real x => .real x.abs

/-- The opposite number, where it is in range. -/
def Number.negated? : Number → Option Number
  | .integer z => ofInt? (-z.val)
  | .real x => some (.real { x with negative := !x.negative })

end RadarCatalog.Json

namespace RadarCatalog.Catalog

open RadarCatalog.Json RadarCatalog.Numeric RadarCatalog.Text

theorem magnitudeText_eq : ∀ n : Number, magnitudeText n = n.magnitude.text
  | .integer z => by
    rw [magnitudeText, Number.magnitude, Number.text, signedDigits]
    exact (if_neg (Int.not_lt.2 (Int.natCast_nonneg _))).symm
  | .real x => rfl

theorem magnitude_of_isPositive : ∀ {n : Number}, isPositive n = true → n.magnitude = n
  | .integer ⟨z, _, _⟩, h => by
    have hz : (z.natAbs : Int) = z := by
      have hpositive : 0 < z := of_decide_eq_true h
      omega
    simp only [Number.magnitude, hz]
  | .real ⟨negative, _, _, _⟩, h => by
    cases negative with
    | false => rfl
    | true => cases h

/-- **A number that is not above zero** is the opposite of its magnitude, up to the sign of a
    zero. -/
theorem negated?_magnitude : ∀ {n : Number}, isPositive n = false →
    ∃ n', n.magnitude.negated? = some n' ∧ n'.sameValue n = true
  | .integer ⟨z, hlower, hupper⟩, h => by
    have hz : -(z.natAbs : Int) = z := by
      have hpositive : ¬ 0 < z := of_decide_eq_false h
      omega
    refine ⟨.integer ⟨z, hlower, hupper⟩, ?_, Number.sameValue_iff.2 rfl⟩
    simp only [Number.magnitude, Number.negated?, hz]
    exact dif_pos ⟨hlower, hupper⟩
  | .real ⟨negative, significand, exponent, normal⟩, h => by
    refine ⟨_, rfl, ?_⟩
    cases negative with
    | true => exact Number.sameValue_iff.2 rfl
    | false =>
      -- the one number without a minus that is not above zero, and it comes back with one
      have hzero : significand = 0 := by simpa [isPositive, Finite.isPositive] using h
      simp [Number.sameValue, Finite.sameValue, Finite.abs, hzero]

/-! ## 2. Reading a line -/

/-- The coordinate of a text: a number, and one of two letters, of which the second stands for the
    opposite number. -/
def readCoordinate? (positive negative : Char) (cs : List Char) : Option Number := do
  let letter ← cs.getLast?
  let n ← Number.ofText? cs.dropLast
  if letter = positive then some n else if letter = negative then n.negated? else none

/-- The coordinates of a line: a latitude, a space and a longitude. -/
def readLine? (line : List Char) : Option (Number × Number) := do
  let lat ← readCoordinate? 'N' 'S' (line.takeWhile (· ≠ ' '))
  let lon ← readCoordinate? 'E' 'W' ((line.dropWhile (· ≠ ' ')).drop 1)
  return (lat, lon)

/-- A line for two coordinates. -/
def positionText (lat lon : Number) : List Char :=
  coordinateText 'N' 'S' lat ++ ' ' :: coordinateText 'E' 'W' lon

theorem readCoordinate?_coordinateText {positive negative : Char} (h : negative ≠ positive)
    (n : Number) : ∃ n', readCoordinate? positive negative (coordinateText positive negative n) =
      some n' ∧ n'.sameValue n = true := by
  have hread : ∀ letter, readCoordinate? positive negative (n.magnitude.text ++ [letter]) =
      if letter = positive then some n.magnitude
      else if letter = negative then n.magnitude.negated? else none := by
    intro letter
    simp [readCoordinate?, ofText?_text]
  rw [coordinateText, magnitudeText_eq, hread]
  cases hn : isPositive n with
  | true =>
    refine ⟨n, ?_, Number.sameValue_iff.2 rfl⟩
    simp only [if_true, magnitude_of_isPositive hn]
  | false =>
    obtain ⟨n', hn', hsame⟩ := negated?_magnitude hn
    refine ⟨n', ?_, hsame⟩
    simp only [Bool.false_eq_true, if_false, if_neg h, if_true, hn']

/-- A coordinate is plain and has no space. -/
theorem plain_of_mem_coordinateText {positive negative : Char} {n : Number}
    (hpositive : isPlain positive = true ∧ positive ≠ ' ')
    (hnegative : isPlain negative = true ∧ negative ≠ ' ') :
    ∀ c ∈ coordinateText positive negative n, isPlain c = true ∧ c ≠ ' ' := by
  intro c hc
  rw [coordinateText, magnitudeText_eq] at hc
  rcases List.mem_append.1 hc with hc | hc
  · exact plain_of_mem_number _ hc
  · rw [List.mem_singleton.1 hc]
    split
    · exact hpositive
    · exact hnegative

/-- **What is read from a line** is equal to what the line was written for. -/
theorem readLine?_positionText (lat lon : Number) : ∃ lat' lon',
    readLine? (positionText lat lon) = some (lat', lon') ∧
      lat'.sameValue lat = true ∧ lon'.sameValue lon = true := by
  obtain ⟨lat', hlat, hsameLat⟩ := readCoordinate?_coordinateText (by decide : 'S' ≠ 'N') lat
  obtain ⟨lon', hlon, hsameLon⟩ := readCoordinate?_coordinateText (by decide : 'W' ≠ 'E') lon
  refine ⟨lat', lon', ?_, hsameLat, hsameLon⟩
  have hspace : ∀ c ∈ coordinateText 'N' 'S' lat, decide (c ≠ ' ') = true := fun c hc =>
    decide_eq_true (plain_of_mem_coordinateText (by decide) (by decide) c hc).2
  rw [readLine?, positionText, List.takeWhile_append_of_pos hspace,
    List.dropWhile_append_of_pos hspace, List.takeWhile_cons_of_neg (by decide),
    List.dropWhile_cons_of_neg (by decide), List.append_nil, List.drop_one, List.tail_cons, hlat,
    hlon]
  rfl

/-- The least integer, whose magnitude no signed integer has, and a zero. -/
example : readLine? "9223372036854775808S 0.0W".toList =
    some (.integer ⟨-0x8000000000000000, by decide, by decide⟩, .real (.zero true)) := by decide

theorem not_lineEnd_of_mem_positionText {lat lon : Number} :
    ∀ c ∈ positionText lat lon, c ≠ '\n' ∧ c ≠ '\r' := by
  have hend : ∀ c : Char, isPlain c = true → c ≠ '\n' ∧ c ≠ '\r' := by
    intro c hc
    constructor
    · rintro rfl
      cases hc
    · rintro rfl
      cases hc
  intro c hc
  rcases List.mem_append.1 hc with hc | hc
  · exact hend c (plain_of_mem_coordinateText (by decide) (by decide) c hc).1
  · rcases List.mem_cons.1 hc with rfl | hc
    · decide
    · exact hend c (plain_of_mem_coordinateText (by decide) (by decide) c hc).1

/-! ## 3. Records with and without a line -/

/-- The record holds these two numbers. -/
structure Record.Located (r : Record) (lat lon : Number) : Prop where
  lat : r.get? "lat" = some (.number lat)
  lon : r.get? "lon" = some (.number lon)

/-- The key under which a record holds no number; a longitude counts behind a latitude. -/
inductive Record.Unlocated (r : Record) : String → Prop
  | lat : (∀ n, r.get? "lat" ≠ some (.number n)) → r.Unlocated "lat"
  | lon {lat : Number} : r.get? "lat" = some (.number lat) →
      (∀ n, r.get? "lon" ≠ some (.number n)) → r.Unlocated "lon"

/-- The two records hold equal numbers. -/
def Record.SamePlace (r r' : Record) : Prop := ∃ lat lon lat' lon', r.Located lat lon ∧
  r'.Located lat' lon' ∧ lat.sameValue lat' = true ∧ lon.sameValue lon' = true

theorem number_eq_ok {r : Record} {key : String} {n : Number} :
    r.number key = .ok n ↔ r.get? key = some (.number n) := by
  unfold Record.number
  split
  · rename_i m h
    rw [h]
    constructor
    · rintro ⟨⟩
      rfl
    · rintro ⟨⟩
      rfl
  · rename_i h
    exact ⟨nofun, fun hn => absurd hn (h n)⟩

theorem number_eq_error {r : Record} {key : String} {e : CoordinateError} :
    r.number key = .error e ↔ (∀ n, r.get? key ≠ some (.number n)) ∧ e = ⟨r.id, key⟩ := by
  unfold Record.number
  split
  · rename_i m h
    exact ⟨nofun, fun hn => absurd h (hn.1 m)⟩
  · rename_i h
    constructor
    · rintro ⟨⟩
      exact ⟨h, rfl⟩
    · rintro ⟨_, rfl⟩
      rfl

theorem coordinateLine_eq_ok {r : Record} {cs : List Char} : coordinateLine r = .ok cs ↔
    ∃ lat lon, r.Located lat lon ∧ cs = positionText lat lon ++ ['\n'] := by
  unfold coordinateLine
  simp only [bind_eq_ok, number_eq_ok, positionText, List.append_assoc]
  constructor
  · rintro ⟨lat, hlat, lon, hlon, h⟩
    cases h
    exact ⟨lat, lon, ⟨hlat, hlon⟩, rfl⟩
  · rintro ⟨lat, lon, ⟨hlat, hlon⟩, rfl⟩
    exact ⟨lat, hlat, lon, hlon, rfl⟩

theorem exists_coordinateLine {r : Record} :
    (∃ cs, coordinateLine r = .ok cs) ↔ ∃ lat lon, r.Located lat lon := by
  simp only [coordinateLine_eq_ok]
  constructor
  · rintro ⟨_, lat, lon, h, _⟩
    exact ⟨lat, lon, h⟩
  · rintro ⟨lat, lon, h⟩
    exact ⟨_, lat, lon, h, rfl⟩

theorem coordinateLine_eq_error {r : Record} {e : CoordinateError} :
    coordinateLine r = .error e ↔ ∃ key, r.Unlocated key ∧ e = ⟨r.id, key⟩ := by
  unfold coordinateLine
  simp only [bind_eq_error, number_eq_ok, number_eq_error]
  constructor
  · rintro (⟨hlat, rfl⟩ | ⟨lat, hlat, ⟨hlon, rfl⟩ | ⟨_, _, h⟩⟩)
    · exact ⟨_, .lat hlat, rfl⟩
    · exact ⟨_, .lon hlat hlon, rfl⟩
    · cases h
  · rintro ⟨key, h, rfl⟩
    cases h with
    | lat hlat => exact .inl ⟨hlat, rfl⟩
    | lon hlat hlon => exact .inr ⟨_, hlat, .inl ⟨hlon, rfl⟩⟩

/-! ## 4. Listings -/

/-- The line of a record. -/
def IsLine (r : Record) (line : List Char) : Prop :=
  ∃ lat lon, r.Located lat lon ∧ line = positionText lat lon

theorem lines_of_mapM {records : List Record} {texts : List (List Char)}
    (h : List.Forall₂ (fun r cs => coordinateLine r = .ok cs) records texts) :
    ∃ lines, List.Forall₂ IsLine records lines ∧ texts.flatten = ofLines lines := by
  induction h with
  | nil => exact ⟨[], .nil, rfl⟩
  | cons hline _ ih =>
    obtain ⟨lines, hlines, htexts⟩ := ih
    obtain ⟨lat, lon, hr, rfl⟩ := coordinateLine_eq_ok.1 hline
    refine ⟨positionText lat lon :: lines, .cons ⟨lat, lon, hr, rfl⟩ hlines, ?_⟩
    rw [List.flatten_cons, htexts, ofLines, ofLines, List.flatMap_cons]

/-- **A listing by its lines**, one for each record. -/
theorem lines_of_coordinates {c : Catalog} {text : String} (h : coordinates c = .ok text) :
    text.toList = ofLines (linesOf text.toList) ∧
      List.Forall₂ IsLine c.records (linesOf text.toList) := by
  obtain ⟨texts, htexts, rfl⟩ := map_eq_ok.1 h
  obtain ⟨lines, hlines, hflat⟩ := lines_of_mapM (mapM_eq_ok.1 htexts)
  have hends : ∀ line ∈ lines, ∀ a ∈ line, a ≠ '\n' ∧ a ≠ '\r' := by
    intro line hline
    obtain ⟨r, lat, lon, _, rfl⟩ := exists_of_forall₂ hlines.flip line hline
    exact not_lineEnd_of_mem_positionText
  rw [String.toList_ofList, hflat, linesOf_ofLines hends]
  exact ⟨rfl, hlines⟩

theorem coordinates_eq_error {c : Catalog} {e : CoordinateError} : coordinates c = .error e ↔
    ∃ before r after key, c.records = before ++ r :: after ∧
      (∀ b ∈ before, ∃ lat lon, b.Located lat lon) ∧ r.Unlocated key ∧ e = ⟨r.id, key⟩ := by
  simp only [coordinates, map_eq_error, mapM_eq_error, exists_coordinateLine,
    coordinateLine_eq_error]
  constructor
  · rintro ⟨before, r, after, hc, hbefore, key, hkey, he⟩
    exact ⟨before, r, after, key, hc, hbefore, hkey, he⟩
  · rintro ⟨before, r, after, key, hc, hbefore, hkey, he⟩
    exact ⟨before, r, after, hc, hbefore, key, hkey, he⟩

theorem exists_coordinates {c : Catalog} : (∃ text, coordinates c = .ok text) ↔
    ∀ r ∈ c.records, ∃ lat lon, r.Located lat lon := by
  simp only [← exists_coordinateLine]
  constructor
  · rintro ⟨text, h⟩
    obtain ⟨texts, htexts, _⟩ := map_eq_ok.1 h
    exact exists_of_forall₂ (mapM_eq_ok.1 htexts)
  · intro h
    obtain ⟨texts, htexts⟩ := exists_mapM h
    exact ⟨_, map_eq_ok.2 ⟨texts, htexts, rfl⟩⟩

/-- What is read from the line of a record is equal to what the record holds. -/
theorem readLine?_of_isLine {r : Record} {line : List Char} (h : IsLine r line) :
    ∃ lat lon lat' lon', r.Located lat lon ∧ readLine? line = some (lat', lon') ∧
      lat'.sameValue lat = true ∧ lon'.sameValue lon = true := by
  obtain ⟨lat, lon, hr, rfl⟩ := h
  obtain ⟨lat', lon', hread, hlat, hlon⟩ := readLine?_positionText lat lon
  exact ⟨lat, lon, lat', lon', hr, hread, hlat, hlon⟩

/-- Two records with one line are in the same place. -/
theorem samePlace_of_isLine {r r' : Record} {line : List Char} (h : IsLine r line)
    (h' : IsLine r' line) : r.SamePlace r' := by
  obtain ⟨lat, lon, m, n, hr, hread, hlat, hlon⟩ := readLine?_of_isLine h
  obtain ⟨lat', lon', m', n', hr', hread', hlat', hlon'⟩ := readLine?_of_isLine h'
  cases hread.symm.trans hread'
  rw [Number.sameValue_iff] at hlat hlon hlat' hlon'
  refine ⟨lat, lon, lat', lon', hr, hr', ?_, ?_⟩
  · exact Number.sameValue_iff.2 (hlat.symm.trans hlat')
  · exact Number.sameValue_iff.2 (hlon.symm.trans hlon')

theorem samePlaces_of_lines : ∀ {records records' : List Record} {lines : List (List Char)},
    List.Forall₂ IsLine records lines → List.Forall₂ IsLine records' lines →
      List.Forall₂ Record.SamePlace records records'
  | _, _, [], .nil, .nil => .nil
  | _, _, _ :: _, .cons h hs, .cons h' hs' =>
    .cons (samePlace_of_isLine h h') (samePlaces_of_lines hs hs')

/-- **A listing loses nothing but the sign of a zero.** There is one exactly if every record holds
    two numbers. It then has a line for each record, from which equal numbers are read, and another
    catalog with this listing holds equal numbers. Otherwise the error is the first record that
    does not hold them, and its latitude rather than its longitude. -/
theorem coordinates_faithful (c : Catalog) :
    ((∃ text, coordinates c = .ok text) ↔ ∀ r ∈ c.records, ∃ lat lon, r.Located lat lon) ∧
      (∀ text, coordinates c = .ok text → text.toList = ofLines (linesOf text.toList) ∧
        List.Forall₂ (fun r line => ∃ lat lon lat' lon', r.Located lat lon ∧
          readLine? line = some (lat', lon') ∧ lat'.sameValue lat = true ∧
            lon'.sameValue lon = true) c.records (linesOf text.toList) ∧
        ∀ c', coordinates c' = .ok text →
          List.Forall₂ Record.SamePlace c.records c'.records) ∧
      ∀ e, coordinates c = .error e ↔ ∃ before r after key, c.records = before ++ r :: after ∧
        (∀ b ∈ before, ∃ lat lon, b.Located lat lon) ∧ r.Unlocated key ∧ e = ⟨r.id, key⟩ := by
  refine ⟨exists_coordinates, ?_, fun e => coordinates_eq_error⟩
  intro text htext
  obtain ⟨hlines, hrecords⟩ := lines_of_coordinates htext
  refine ⟨hlines, hrecords.imp fun _ _ => readLine?_of_isLine, ?_⟩
  intro c' htext'
  exact samePlaces_of_lines hrecords (lines_of_coordinates htext').2

end RadarCatalog.Catalog
