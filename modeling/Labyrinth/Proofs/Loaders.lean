import Labyrinth.Layout.Drawing
import Labyrinth.Layout.Reference
import Labyrinth.Wire

/-!
# Layouts that are given out

A layout comes from one of three places: it is drawn, it is decoded, or it is the reference layout.
`Layout.Loaded` names them, and `Loaded.wellFormed` says that each of them gives out well-formed
layouts only, the reference layout included, which no loader checks.
-/

namespace Labyrinth

/-- Two steps that can fail succeed together when each of them does. -/
theorem bind_eq_ok_iff {ε α β : Type} {x : Except ε α} {f : α → Except ε β} {b : β} :
    x >>= f = .ok b ↔ ∃ a, x = .ok a ∧ f a = .ok b := by
  cases x with
  | error e => exact ⟨nofun, fun ⟨_, h, _⟩ => nomatch h⟩
  | ok a => exact ⟨fun h => ⟨a, rfl, h⟩, fun ⟨_, same, h⟩ => by cases same; exact h⟩

namespace Json

/-- What a route gets to decode of a text that holds one value and nothing after it: the reading as it
    stands, or the reading of the whole value. -/
inductive Document.Offers (document : Document) : Route → Reading → Prop where
  | inOrder (alone : document.trailing = false) : Offers document .inOrder document.root
  | whole {value : Value} (alone : document.trailing = false)
      (found : document.root.value? Reading.deepest = .ok value) :
      Offers document .whole value.reading

namespace Codec

variable {α : Type} {codec : Codec α} {check : α → Except String α} {route : Route}

/-- What passes a refined decoder is what the check makes of some decoded value. -/
theorem decode_refine_eq_ok_iff {reading : Reading} {a : α} :
    (codec.refine check).decode route reading = .ok a ↔
      ∃ raw, codec.decode route reading = .ok raw ∧ check raw = .ok a := by
  refine bind_eq_ok_iff.trans (exists_congr fun raw => and_congr_right fun _ => ?_)
  cases check raw <;> simp

/-- What a text decodes to is what the decoder makes of the reading that the route gets. -/
theorem decodeText_eq_ok_iff {text : List Char} {a : α} :
    codec.decodeText route text = .ok a ↔
      ∃ reading, (Document.ofText text).Offers route reading ∧
        codec.decode route reading = .ok a := by
  unfold decodeText
  generalize Document.ofText text = document
  cases route with
  | inOrder =>
    constructor
    · intro decoded
      obtain ⟨value, read, rest⟩ := bind_eq_ok_iff.1 decoded
      cases alone : document.trailing with
      | true => rw [alone] at rest; cases rest
      | false =>
        rw [alone] at rest
        cases rest
        exact ⟨_, .inOrder alone, read⟩
    · rintro ⟨_, offered, read⟩
      cases offered with
      | inOrder alone =>
        dsimp only
        rw [read, alone]
        rfl
  | whole =>
    constructor
    · intro decoded
      obtain ⟨value, found, rest⟩ := bind_eq_ok_iff.1 decoded
      cases alone : document.trailing with
      | true => rw [alone] at rest; cases rest
      | false =>
        rw [alone] at rest
        cases root : document.root.value? Reading.deepest with
        | error flaw => rw [root] at found; cases found
        | ok whole =>
          rw [root] at found
          cases found
          exact ⟨_, .whole alone root, rest⟩
    · rintro ⟨_, offered, read⟩
      cases offered with
      | whole alone found =>
        dsimp only
        rw [found, alone]
        exact read

/-- A text is decoded by a refined codec exactly if it is decoded without the check, and passes it. -/
theorem decodeText_refine_eq_ok_iff {text : List Char} {a : α} :
    (codec.refine check).decodeText route text = .ok a ↔
      ∃ raw, codec.decodeText route text = .ok raw ∧ check raw = .ok a := by
  simp only [decodeText_eq_ok_iff, decode_refine_eq_ok_iff]
  constructor
  · rintro ⟨reading, offered, raw, decoded, passed⟩
    exact ⟨raw, ⟨reading, offered, decoded⟩, passed⟩
  · rintro ⟨raw, ⟨reading, offered, decoded⟩, passed⟩
    exact ⟨reading, offered, raw, decoded, passed⟩

end Codec

end Json

namespace Layout

/-- The layouts that a loader gives out. -/
inductive Loaded : Layout → Prop where
  | drawn {rows : List (List Char)} {start : Robot} {goal : Cell} {layout : Layout}
      (drawing : load? rows start goal = some (.ok layout)) : Loaded layout
  | decoded {route : Json.Route} {text : List Char} {layout : Layout}
      (decoding : Wire.layout.decodeText route text = .ok layout) : Loaded layout
  | reference : Loaded reference

/-- Something comes of a drawing exactly if there is room for its tiles, and then what its rows give. -/
theorem load?_eq_some_iff {rows : List (List Char)} {start : Robot} {goal : Cell}
    {result : Except LayoutError Layout} :
    load? rows start goal = some result ↔
      (rows.headD []).length * rows.length ≤ mostTiles ∧ ofRows rows start goal = result := by
  unfold load?
  split
  · next room => exact ⟨fun same => ⟨room, Option.some.inj same⟩, fun same => congrArg some same.2⟩
  · next full => exact ⟨nofun, fun same => absurd same.1 full⟩

theorem wellFormed_of_ofRows {rows : List (List Char)} {start : Robot} {goal : Cell}
    {layout : Layout} (h : ofRows rows start goal = .ok layout) : layout.WellFormed := by
  unfold ofRows at h
  dsimp only at h
  split at h
  · cases h
  · obtain ⟨tiles, -, checked⟩ := bind_eq_ok_iff.1 h
    obtain ⟨rfl, wellFormed⟩ := checked_eq_ok_iff.1 checked
    exact wellFormed

theorem mapError_checked_eq_ok_iff {raw result : Layout} :
    raw.checked.mapError LayoutError.message = .ok result ↔ result = raw ∧ raw.WellFormed := by
  rw [← checked_eq_ok_iff]
  cases raw.checked with
  | error fault => exact iff_of_false nofun nofun
  | ok layout =>
    exact ⟨fun same => congrArg Except.ok (Except.ok.inj same),
      fun same => congrArg Except.ok (Except.ok.inj same)⟩

/-- A text is decoded to a layout exactly if it has its fields, and they pass the check. -/
theorem decodeText_layout_eq_ok_iff {route : Json.Route} {text : List Char} {layout : Layout} :
    Wire.layout.decodeText route text = .ok layout ↔
      Wire.layoutFields.decodeText route text = .ok layout ∧ layout.WellFormed := by
  refine Json.Codec.decodeText_refine_eq_ok_iff.trans ⟨?_, ?_⟩
  · rintro ⟨raw, decoded, passed⟩
    obtain ⟨rfl, wellFormed⟩ := mapError_checked_eq_ok_iff.1 passed
    exact ⟨decoded, wellFormed⟩
  · rintro ⟨decoded, wellFormed⟩
    exact ⟨layout, decoded, mapError_checked_eq_ok_iff.2 ⟨rfl, wellFormed⟩⟩

/-- The reference layout would pass the check of a loader. -/
theorem wellFormed_reference : reference.WellFormed where
  width_pos := by decide
  height_pos := by decide
  size_tiles := by decide +kernel
  start_free := by decide +kernel
  goal_free := by decide +kernel

/-- Every layout that is given out is well formed. -/
theorem Loaded.wellFormed {layout : Layout} (loaded : layout.Loaded) : layout.WellFormed := by
  cases loaded with
  | drawn drawing => exact wellFormed_of_ofRows (load?_eq_some_iff.1 drawing).2
  | decoded decoding => exact (decodeText_layout_eq_ok_iff.1 decoding).2
  | reference => exact wellFormed_reference

end Layout

end Labyrinth
