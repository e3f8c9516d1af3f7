import Portcullis.Json.Reader
import Portcullis.Proofs.Json.Tokens

/-! Values that are written are read back.

The reader is followed over the text of a value: whatever is open around the value, behind its
last character the value is complete and everything around it is as it was (`Written.reads`). -/
namespace Portcullis.Json
open Text

/-- The values that records are written as: texts, whole numbers, and arrays and objects of
such values. -/
inductive Written : Json → Prop where
  | null : Written .null
  | bool (b : Bool) : Written (.bool b)
  | whole (n : Nat) : Written (.number (.ofNat n))
  | text (s : String) : Written (ofString s)
  | array {items : List Json} (h : ∀ v ∈ items, Written v) : Written (.array items)
  | object {fields : List (String × Json)} (h : ∀ f ∈ fields, Written f.2) :
    Written (ofFields fields)

theorem renderItems_eq_map (items : List Json) : renderItems items = items.map render := by
  induction items with
  | nil => rw [renderItems, List.map_nil]
  | cons v rest ih => rw [renderItems, ih, List.map_cons]

/-- A member as it is written. -/
def renderField (field : String × Json) : List Char :=
  (Literal.text field.1).render ++ ':' :: render field.2

theorem renderMembers_eq_map (fields : List (String × Json)) :
    renderMembers (fields.map fun (name, value) => (.text name, value)) =
      fields.map renderField := by
  induction fields with
  | nil => rw [List.map_nil, renderMembers, List.map_nil]
  | cons f rest ih => rw [List.map_cons, renderMembers, ih, List.map_cons, renderField]

theorem render_array (items : List Json) :
    render (.array items) = '[' :: commas (items.map render) ++ [']'] := by
  rw [render, renderItems_eq_map]

theorem render_ofFields (fields : List (String × Json)) :
    render (ofFields fields) = '{' :: commas (fields.map renderField) ++ ['}'] := by
  rw [ofFields, render, renderMembers_eq_map]

/-! ### The reader on a text -/

/-- Read on through a text. -/
def resume? (expect : Expect) (frames : List Frame) (text : List Char) : Option Json :=
  (tokens? text).bind (run? expect frames)

theorem run?_cons (expect : Expect) (frames : List Frame) (t : Token) (rest : List Token) :
    run? expect frames (t :: rest) =
      (step? frames t expect).bind fun next => run? next.1 next.2 rest := by
  rw [run?]

/-- Take one token of the text. -/
theorem resume?_token {expect : Expect} {frames : List Frame} {t : Token} {text rest : List Char}
    (h : tokens? text = (tokens? rest).map (t :: ·)) :
    resume? expect frames text =
      (step? frames t expect).bind fun next => resume? next.1 next.2 rest := by
  rw [resume?, h]
  cases htokens : tokens? rest with
  | none =>
    cases step? frames t expect with
    | none => rfl
    | some next => simp only [Option.map_none, Option.bind_none, Option.bind_some, resume?, htokens]
  | some tokens =>
    rw [Option.map_some, Option.bind_some, run?_cons]
    cases step? frames t expect with
    | none => rfl
    | some next => simp only [Option.bind_some, resume?, htokens]

theorem resume?_mark {expect : Expect} {frames : List Frame} {c : Char} {t : Token}
    {rest : List Char} (h : (c, t) ∈ marks) :
    resume? expect frames (c :: rest) =
      (step? frames t expect).bind fun next => resume? next.1 next.2 rest :=
  resume?_token (tokens?_mark h rest)

/-! ### Values -/

/-- A value may come next. -/
def Expect.Opens (expect : Expect) : Prop := expect = .value ∨ expect = .firstItem

/-- A key may come next. -/
def Expect.Keys (expect : Expect) : Prop := expect = .key ∨ expect = .firstKey

/-- Text that reads as a value, whatever is open around it. -/
def Reads (text : List Char) (v : Json) : Prop :=
  ∀ expect frames rest, expect.Opens → Ends rest →
    resume? expect frames (text ++ rest) = resume? (.after v) frames rest

theorem step?_of_opens {expect : Expect} (he : expect.Opens) (frames : List Frame) {t : Token}
    (ht : t ≠ .closeArray) : step? frames t expect = begin? frames t := by
  rcases he with rfl | rfl
  · rfl
  · rw [step?]
    intro _ _ _ hclose
    exact ht hclose

/-- A token that is a value reads as that value. -/
theorem reads_of_token {text : List Char} {t : Token} {v : Json}
    (htext : ∀ rest, Ends rest → tokens? (text ++ rest) = (tokens? rest).map (t :: ·))
    (ht : t ≠ .closeArray) (hbegin : ∀ frames, begin? frames t = some (.after v, frames)) :
    Reads text v := by
  intro expect frames rest he hends
  rw [resume?_token (htext rest hends), step?_of_opens he frames ht, hbegin]
  rfl

/-- The items of an array are read up to its end. -/
theorem resume?_items {items : List Json} (hne : items ≠ []) (h : ∀ v ∈ items, Reads v.render v)
    {expect : Expect} (he : expect.Opens) (done : List Json) (frames : List Frame)
    (rest : List Char) :
    resume? expect (.array done :: frames) (commas (items.map render) ++ ']' :: rest) =
      resume? (.after (.array (done.reverse ++ items))) frames rest := by
  induction items generalizing expect done with
  | nil => exact absurd rfl hne
  | cons v items ih =>
    have hv := h v List.mem_cons_self
    cases items with
    | nil =>
      rw [List.map_singleton, commas, hv _ _ _ he (.closeArray rest),
        resume?_mark (t := .closeArray) (by decide)]
      simp only [step?, continue?, Option.bind_some, List.reverse_cons]
    | cons w items =>
      have hrest := ih (List.cons_ne_nil _ _) (fun x hx => h x (List.mem_cons_of_mem _ hx))
        (.inl rfl) (v :: done)
      rw [List.map_cons] at hrest
      rw [List.map_cons, List.map_cons, commas, List.append_assoc, List.cons_append,
        hv _ _ _ he (.comma _), resume?_mark (t := .comma) (by decide)]
      simp only [step?, continue?, Option.bind_some]
      rw [hrest, List.reverse_cons, List.append_assoc, List.singleton_append]
      exact List.cons_ne_nil _ _

/-- A key is read, and the value behind its colon. -/
theorem resume?_field {field : String × Json} (h : Reads field.2.render field.2)
    {expect : Expect} (he : expect.Keys) (done : List (Literal × Json)) (frames : List Frame)
    {rest : List Char} (hends : Ends rest) :
    resume? expect (.object done :: frames) (renderField field ++ rest) =
      resume? (.after field.2) (.member done (.text field.1) :: frames) rest := by
  have hkey : ∀ frames, step? frames (.string (.text field.1)) expect =
      some (.colon (.text field.1), frames) := by
    intro frames
    rcases he with rfl | rfl
    · rfl
    · rw [step?]
  rw [renderField, List.append_assoc, resume?_token (tokens?_text_append _ _), hkey,
    Option.bind_some, List.cons_append, resume?_mark (t := .colon) (by decide)]
  exact h _ _ _ (.inl rfl) hends

/-- The members of an object are read up to its end. -/
theorem resume?_fields {fields : List (String × Json)} (hne : fields ≠ [])
    (h : ∀ f ∈ fields, Reads f.2.render f.2) {expect : Expect} (he : expect.Keys)
    (done : List (Literal × Json)) (frames : List Frame) (rest : List Char) :
    resume? expect (.object done :: frames) (commas (fields.map renderField) ++ '}' :: rest) =
      resume? (.after (.object (done.reverse ++
        fields.map fun (name, value) => (.text name, value)))) frames rest := by
  induction fields generalizing expect done with
  | nil => exact absurd rfl hne
  | cons f fields ih =>
    have hf := h f List.mem_cons_self
    cases fields with
    | nil =>
      rw [List.map_singleton, commas, resume?_field hf he _ _ (.closeObject rest),
        resume?_mark (t := .closeObject) (by decide)]
      simp only [step?, continue?, Option.bind_some, List.reverse_cons, List.map_singleton]
    | cons g fields =>
      have hrest := ih (List.cons_ne_nil _ _) (fun x hx => h x (List.mem_cons_of_mem _ hx))
        (.inl rfl) ((.text f.1, f.2) :: done)
      rw [List.map_cons] at hrest
      rw [List.map_cons, List.map_cons, commas, List.append_assoc, List.cons_append,
        resume?_field hf he _ _ (.comma _), resume?_mark (t := .comma) (by decide)]
      simp only [step?, continue?, Option.bind_some]
      rw [hrest, List.reverse_cons, List.append_assoc, List.singleton_append]
      · rfl
      · exact List.cons_ne_nil _ _

/-- What is written for a value reads as that value. -/
theorem Written.reads {v : Json} (h : Written v) : Reads v.render v := by
  induction h with
  | null =>
    refine reads_of_token (t := .null) (fun rest _ => ?_) (by simp) (fun _ => rfl)
    rw [render, List.cons_append, List.cons_append, List.cons_append, List.singleton_append,
      tokens?]
  | bool b =>
    cases b with
    | true =>
      refine reads_of_token (t := .bool true) (fun rest _ => ?_) (by simp) (fun _ => rfl)
      rw [render, List.cons_append, List.cons_append, List.cons_append, List.singleton_append,
        tokens?]
    | false =>
      refine reads_of_token (t := .bool false) (fun rest _ => ?_) (by simp) (fun _ => rfl)
      rw [render, List.cons_append, List.cons_append, List.cons_append, List.cons_append,
        List.singleton_append, tokens?]
  | whole n =>
    refine reads_of_token (t := .number (.ofNat n)) (fun rest hends => ?_) (by simp) (fun _ => rfl)
    rw [render, tokens?_ofNat_append n hends]
  | text s =>
    refine reads_of_token (t := .string (.text s)) (fun rest _ => ?_) (by simp) (fun _ => rfl)
    rw [ofString, render, tokens?_text_append]
  | @array items _ ih =>
    intro expect frames rest he hends
    rw [render_array, List.cons_append, List.cons_append, List.append_assoc, List.singleton_append,
      resume?_mark (t := .openArray) (by decide), step?_of_opens he frames (by simp)]
    simp only [begin?, Option.bind_some]
    cases items with
    | nil =>
      rw [List.map_nil, commas, List.nil_append, resume?_mark (t := .closeArray) (by decide)]
      rfl
    | cons v items =>
      rw [resume?_items (List.cons_ne_nil _ _) ih (.inr rfl), List.reverse_nil, List.nil_append]
  | @object fields _ ih =>
    intro expect frames rest he hends
    rw [render_ofFields, List.cons_append, List.cons_append, List.append_assoc,
      List.singleton_append, resume?_mark (t := .openObject) (by decide),
      step?_of_opens he frames (by simp)]
    simp only [begin?, Option.bind_some]
    cases fields with
    | nil =>
      rw [List.map_nil, commas, List.nil_append, resume?_mark (t := .closeObject) (by decide)]
      rfl
    | cons f fields =>
      rw [resume?_fields (List.cons_ne_nil _ _) ih (.inr rfl), List.reverse_nil, List.nil_append]
      rfl

/-- **Compact text reads back as the value that it was written for.** -/
theorem parse?_compact {v : Json} (h : Written v) : parse? v.compact = some v := by
  have hreads := h.reads .value [] [] (.inl rfl) .nil
  rw [List.append_nil] at hreads
  rw [parse?, compact, String.toList_ofList]
  show resume? .value [] v.render = some v
  rw [hreads, resume?, tokens?, Option.bind_some, run?]

/-- Values that are written alike are the same. -/
theorem Written.compact_inj {v w : Json} (hv : Written v) (hw : Written w)
    (h : v.compact = w.compact) : v = w := by
  have hread := parse?_compact hv
  rw [h, parse?_compact hw] at hread
  exact (Option.some_inj.mp hread).symm

end Portcullis.Json
