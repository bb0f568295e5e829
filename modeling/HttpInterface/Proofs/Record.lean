import HttpInterface.Proofs.OrderedMap
import HttpInterface.Record.OfFields

/-!
# `HttpInterface.Proofs.Record`: records whose fields hold what they should

A record that is given field by field is read back if every value is the one that its field asks
for. Reading is put together from readers, and so are these facts: `required_eq_ok` and
`withDefault_eq_ok` for a field, `sequence_tuple` for a row of values, and `mapping_dict` for a
dictionary whose entries stand as in a map.
-/

set_option autoImplicit false

namespace HttpInterface

theorem Value.sameKey_text (s t : String) : (Value.text s).sameKey (.text t) = (s == t) := by
  simp [Value.sameKey, Value.sameSingleKey]

/-- Among entries whose keys are texts, a text finds what the map has for it. -/
theorem Value.find?_sameKey {α β : Type} (write : α → β) (m : OrderedMap String α)
    (name : String) :
    ((m.entries.map fun e => (Value.text e.1, write e.2)).find? fun e =>
      e.1.sameKey (.text name)).map Prod.snd = (m.get? name).map write := by
  rw [OrderedMap.get?]
  generalize m.entries = entries
  induction entries with
  | nil => rfl
  | cons e rest ih =>
    obtain ⟨first, v⟩ := e
    by_cases hname : first = name
    · simp [hname, sameKey_text]
    · have hother : (name == first) = false := beq_false_of_ne (Ne.symm hname)
      rw [List.map_cons, List.find?_cons_of_neg (by simp [sameKey_text, hname]), ih,
        List.lookup_cons, hother]

namespace Record

section

variable {α : Type} {fields : Fields} {name : String} {v : Value} {a default : α}
  {read : Value → Checked α}

theorem required_eq_ok (hv : fields.lookup name = some v) (h : read v = .ok a) :
    required fields name read = .ok a := by
  rw [required, hv]
  show (read v).inside name = .ok a
  rw [h]
  rfl

theorem withDefault_eq_ok (hv : fields.lookup name = some v) (h : read v = .ok a) :
    withDefault fields name default read = .ok a := by
  rw [withDefault, hv]
  show (read v).inside name = .ok a
  rw [h]
  rfl

end

section

variable {κ α : Type} {read : Value → Checked α} {write : α → Value}

/-- What is read back value by value is read back as a row. -/
theorem sequence_tuple (h : ∀ a, read (write a) = .ok a) (as : List α) :
    sequence read (.tuple (as.map write)) = .ok as := by
  -- Generalised over the number of the first element.
  have key : ∀ (as : List α) (index : Nat), elementsFrom read index (as.map write) = .ok as := by
    intro as
    induction as with
    | nil => exact fun _ => rfl
    | cons a as ih =>
      intro index
      rw [List.map_cons, elementsFrom, h a, ih]
      rfl
  exact key as 0

/-- What is read back entry by entry is read back as a map. -/
theorem mapping_dict [DecidableEq κ] {readKey : Value → Checked κ} {writeKey : κ → Value}
    (hkey : ∀ k, readKey (writeKey k) = .ok k) (h : ∀ a, read (write a) = .ok a)
    (m : OrderedMap κ α) :
    mapping readKey read (.dict (m.entries.map fun e => (writeKey e.1, write e.2))) = .ok m := by
  have hentries : ∀ es : List (κ × α),
      entries readKey read (es.map fun e => (writeKey e.1, write e.2)) = .ok es := by
    intro es
    induction es with
    | nil => rfl
    | cons e es ih =>
      rw [List.map_cons, entries, hkey, h, ih]
      rfl
  rw [mapping, hentries]
  exact congrArg Checked.ok (OrderedMap.ext (OrderedMap.entries_ofList m.nodup_keys))

end

theorem text_text (s : String) : text (.text s) = .ok s := rfl

theorem optional_text (s : Option String) :
    optional text ((s.map .text).getD .null) = .ok s := by
  cases s <;> rfl

theorem texts_tuple (ss : List String) : texts (.tuple (ss.map .text)) = .ok ss :=
  sequence_tuple text_text ss

theorem optional_bytes (bs : Option Bytes) :
    optional bytes ((bs.map .bytes).getD .null) = .ok bs := by
  cases bs <;> rfl

end Record

end HttpInterface
