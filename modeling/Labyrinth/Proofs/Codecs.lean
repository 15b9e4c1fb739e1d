import Labyrinth.Proofs.Loaders
import Labyrinth.Proofs.Readings

/-!
# Codecs that lose nothing

A codec is faithful to the values that fit it (`Codec.Faithful`): what it writes for them is plain, it
reads them back on both routes, and it reads no others. So a text that it writes decodes to the value it
was written for (`Faithful.decodeText_encodeText`). Codecs are put together from smaller ones, and for
each way to do so there is a lemma that the result is faithful again.
-/

namespace Labyrinth.Json

/-- What a codec writes for the values that fit, it reads back, and it reads only values that fit. -/
structure Codec.Faithful {α : Type} (codec : Codec α) (Fits : α → Prop) (room : Nat) : Prop where
  plain : ∀ a, Fits a → (codec.encode a).Plain room
  reads : ∀ a, Fits a → ∀ route, codec.decode route ((codec.encode a).arranged route).reading = .ok a
  fits : ∀ route reading a, codec.decode route reading = .ok a → Fits a

variable {α β : Type} {room : Nat} {Fits : α → Prop}

theorem map_eq_ok_iff {ε : Type} {x : Except ε α} {f : α → β} {b : β} :
    x.map f = .ok b ↔ ∃ a, x = .ok a ∧ f a = b := by
  cases x <;> simp [Except.map]

/-! ### Single values -/

namespace Codec

theorem faithful_bool : bool.Faithful (fun _ => True) room where
  plain _ _ := .bool
  reads _ _ _ := rfl
  fits _ _ _ _ := trivial

theorem faithful_character : character.Faithful (fun _ => True) room where
  plain _ _ := .text
  reads c _ _ := by
    have single : (String.singleton c).toList = [c] := by simp
    simp only [character, Value.arranged, Value.reading, single]
  fits _ _ _ _ := trivial

/-- A whole number that fits in a word is read as such. -/
theorem whole?_ofInt {i : Int} (low : -(minWordSize : Int) ≤ i) (high : i ≤ maxWord) :
    (Numeral.ofInt i).whole? = some i := by
  simp only [Numeral.whole?, Numeral.ofInt, ofDigits_toDigits]
  by_cases negative : i < 0
  · have size : 0 < i.natAbs ∧ i.natAbs ≤ minWordSize := by omega
    simp [negative, size, Int.ofNat_natAbs_of_nonpos (Int.le_of_lt negative)]
  · have size : i.natAbs ≤ maxWord := by omega
    simp [negative, size, Int.natAbs_of_nonneg (Int.not_lt.1 negative)]

theorem faithful_intBetween {low high : Int} (above : -(minWordSize : Int) ≤ low)
    (below : high ≤ maxWord) :
    (intBetween low high).Faithful (fun i => low ≤ i ∧ i ≤ high) room where
  plain i fits := by
    have sizes : minWordSize ≤ maxWord := by decide
    exact .int (by omega)
  reads i fits route := by
    have whole := whole?_ofInt (Int.le_trans above fits.1) (Int.le_trans fits.2 below)
    simp only [intBetween, Value.int, Value.arranged, Value.reading, whole, if_pos fits]
  fits route reading i decoded := by
    cases reading with
    | number n =>
      simp only [intBetween] at decoded
      split at decoded
      · split at decoded
        · next inside => cases decoded; exact inside
        · cases decoded
      · cases decoded
    | _ => cases decoded

/-- A codec that carries over along a pair of functions is faithful to what has a counterpart. -/
theorem Faithful.map {codec : Codec α} (faithful : codec.Faithful Fits room) {make : α → β}
    {back : β → α} (make_back : ∀ b, make (back b) = b) (back_make : ∀ a, Fits a → back (make a) = a) :
    (codec.map make back).Faithful (fun b => Fits (back b)) room where
  plain b fits := faithful.plain (back b) fits
  reads b fits route := map_eq_ok_iff.2 ⟨back b, faithful.reads (back b) fits route, make_back b⟩
  fits route reading b decoded := by
    obtain ⟨a, read, rfl⟩ := map_eq_ok_iff.1 decoded
    have fits := faithful.fits route reading a read
    rwa [back_make a fits]

theorem Faithful.congr {codec : Codec α} (faithful : codec.Faithful Fits room) {Other : α → Prop}
    (same : ∀ a, Other a ↔ Fits a) : codec.Faithful Other room := by
  rwa [show Other = Fits from funext fun a => propext (same a)]

theorem faithful_count : count.Faithful (· ≤ maxWord) room := by
  have ints : (intBetween 0 maxWord).Faithful (fun i => 0 ≤ i ∧ i ≤ maxWord) room :=
    faithful_intBetween (by decide) (by decide)
  refine (ints.map Int.toNat_natCast fun i fits => Int.toNat_of_nonneg fits.1).congr fun n => ?_
  simp

theorem faithful_coordinate : coordinate.Faithful (fun _ => True) room := by
  have ints : (intBetween (-0x80000000) 0x7fffffff).Faithful
      (fun i => -0x80000000 ≤ i ∧ i ≤ 0x7fffffff) room := faithful_intBetween (by decide) (by decide)
  refine (ints.map Int32.ofInt_toInt fun i fits => ?_).congr fun x => ?_
  · exact Int32.toInt_ofInt_of_le fits.1 (Int.lt_add_one_of_le fits.2)
  · exact iff_of_true trivial ⟨x.le_toInt, Int.le_of_lt_add_one x.toInt_lt⟩

/-! ### Lists and checks -/

theorem Faithful.mapM_decode {codec : Codec α} (faithful : codec.Faithful Fits room) (route : Route)
    {items : List α} (fits : ∀ a ∈ items, Fits a) :
    (readingItems (arrangedItems route (items.map codec.encode))).mapM (codec.decode route) =
      .ok items := by
  induction items with
  | nil => rfl
  | cons a items ih =>
    obtain ⟨head, tail⟩ := List.forall_mem_cons.1 fits
    rw [List.map_cons, arrangedItems, readingItems, List.mapM_cons, faithful.reads a head route,
      ih tail]
    rfl

theorem Faithful.fits_of_mapM {codec : Codec α} (faithful : codec.Faithful Fits room) {route : Route}
    {readings : List Reading} {items : List α}
    (decoded : readings.mapM (codec.decode route) = .ok items) : ∀ a ∈ items, Fits a := by
  induction readings generalizing items with
  | nil =>
    cases decoded
    nofun
  | cons reading readings ih =>
    rw [List.mapM_cons] at decoded
    obtain ⟨a, head, rest⟩ := bind_eq_ok_iff.1 decoded
    obtain ⟨others, tail, joined⟩ := bind_eq_ok_iff.1 rest
    cases joined
    exact List.forall_mem_cons.2 ⟨faithful.fits route reading a head, ih tail⟩

theorem Faithful.list {codec : Codec α} (faithful : codec.Faithful Fits room) :
    (Codec.list codec).Faithful (fun items => ∀ a ∈ items, Fits a) (room + 1) where
  plain items fits := .array fun v member => by
    obtain ⟨a, present, rfl⟩ := List.mem_map.1 member
    exact faithful.plain a (fits a present)
  reads items fits route := by
    simp only [Codec.list, Value.arranged, Value.reading, faithful.mapM_decode route fits]
    rfl
  fits route reading items decoded := by
    cases reading with
    | array readings closing =>
      obtain ⟨values, read, rest⟩ := bind_eq_ok_iff.1 decoded
      obtain ⟨_, -, same⟩ := bind_eq_ok_iff.1 rest
      cases same
      exact faithful.fits_of_mapM read
    | _ => cases decoded

theorem Faithful.refine {codec : Codec α} (faithful : codec.Faithful Fits room)
    {check : α → Except String α} (keeps : ∀ a b, check a = .ok b → b = a) :
    (codec.refine check).Faithful (fun a => Fits a ∧ check a = .ok a) room where
  plain a fits := faithful.plain a fits.1
  reads a fits route := by
    simp only [Codec.refine, faithful.reads a fits.1 route, bind, Except.bind, fits.2]
  fits route reading a decoded := by
    obtain ⟨raw, read, passed⟩ := decode_refine_eq_ok_iff.1 decoded
    obtain rfl := keeps raw a passed
    exact ⟨faithful.fits route reading a read, passed⟩

/-! ### Texts -/

/-- A text written for a value that fits decodes to that value, on both routes. -/
theorem Faithful.decodeText_encodeText {codec : Codec α}
    (faithful : codec.Faithful Fits Reading.deepest) (route : Route) {a : α} (fits : Fits a) :
    codec.decodeText route (codec.encodeText a) = .ok a := by
  rw [encodeText, codec.decodeText_print route (faithful.plain a fits)]
  exact faithful.reads a fits route

/-- Whatever a text decodes to fits. -/
theorem Faithful.fits_of_decodeText {codec : Codec α} (faithful : codec.Faithful Fits room)
    {route : Route} {text : List Char} {a : α} (decoded : codec.decodeText route text = .ok a) :
    Fits a := by
  obtain ⟨reading, -, read⟩ := decodeText_eq_ok_iff.1 decoded
  exact faithful.fits route reading a read

end Codec

end Labyrinth.Json
