import Portcullis.Proofs.Json.Reading
import Portcullis.Proofs.Json.Records

/-! Faithful codecs: what is written for a value reads back as the value.

A codec is a way to write the values of a type as JSON and a way to read them. It is faithful
when it reads what it writes and writes only what its compact text gives back (`Faithful`); then
the text gives back the value (`Faithful.givesBack`). The codecs of texts, words, names and lists
are faithful, and those of records and tagged values are put together from them. -/
namespace Portcullis.Json

variable {α : Type}

/-- What is written reads back, as a value and as text. -/
structure Faithful (write : α → Json) (read : Json → Option α) : Prop where
  written : ∀ a, Written (write a)
  read_write : ∀ a, read (write a) = some a

/-- The value that a text is read as. -/
def ofText? (read : Json → Option α) (text : String) : Option α := (parse? text).bind read

/-- The compact text of every value gives back the value. -/
def GivesBack (write : α → Json) (read : Json → Option α) : Prop :=
  ∀ a, ofText? read (write a).compact = some a

theorem Faithful.givesBack {write : α → Json} {read : Json → Option α}
    (h : Faithful write read) : GivesBack write read := by
  intro a
  rw [ofText?, parse?_compact (h.written a), Option.bind_some, h.read_write]

namespace Faithful

theorem text : Faithful ofString text? where
  written := .text
  read_write := text?_ofString

theorem word : Faithful ofWord word? where
  written := fun n => .whole n.toNat
  read_write := word?_ofWord

/-- A list is read item by item. -/
theorem list {write : α → Json} {read : Json → Option α} (h : Faithful write read) :
    Faithful (fun items => .array (items.map write)) (list? read) where
  written items := .array fun v hv => by
    obtain ⟨a, -, rfl⟩ := List.mem_map.mp hv
    exact h.written a
  read_write items := by
    show (items.map write).mapM read = some items
    induction items with
    | nil => rfl
    | cons a items ih =>
      rw [List.map_cons, List.mapM_cons, h.read_write, ih]
      rfl

/-- A value of an enumeration is written as its name. -/
theorem named {name : α → String} {named : String → Option α}
    (h : ∀ a, named (name a) = some a) : Faithful (fun a => ofString (name a)) (enum? named) where
  written a := .text (name a)
  read_write := h

end Faithful

/-! ### Tagged values -/

section
variable {tag content variant : String}

/-- A variant without content is written as its tag alone. -/
theorem tagAndContent?_tag (h : content ≠ tag) :
    (ofFields [(tag, ofString variant)]).tagAndContent? tag content = some (variant, none) := by
  have honce : ∀ name ∈ [tag, content], occurrences name [(tag, ofString variant)] ≤ 1 :=
    fun name _ => List.countP_le_length
  rw [tagAndContent?, record?_ofFields honce]
  simp [Record.field?, Record.get?_cons_of_ne h]
  rfl

/-- The content of a variant is written behind its tag. -/
theorem tagAndContent?_content (h : content ≠ tag) (value : Json) :
    (ofFields [(tag, ofString variant), (content, value)]).tagAndContent? tag content =
      some (variant, some value) := by
  have honce : ∀ name ∈ [tag, content],
      occurrences name [(tag, ofString variant), (content, value)] ≤ 1 := by
    simp [occurrences, h, Ne.symm h]
  rw [tagAndContent?, record?_ofFields honce]
  simp [Record.field?, Record.get?_cons_of_ne h]
  rfl

end

end Portcullis.Json
