import Portcullis.Proofs.Text.Trimming
import Portcullis.Reply

/-! What a code fence around a reply changes.

A generator may put its reply between two fences and write something behind the first one, or
leave the second one out. The fence is looked for in trimmed text, and what is left without it is
trimmed once more. So the blanks around the fence, what its first line says and the line breaks
next to it go with the fence, and what was put between comes out as if it had stood alone
(`fence_transparent`). -/
namespace Portcullis.Reply
open Text

/-- A text between two fences, with something said behind the first one. -/
def fenced (info text : List Char) : List Char :=
  fence ++ (info ++ '\n' :: (text ++ '\n' :: fence))

/-- A text behind a fence that nothing closes. -/
def fencedOpen (info text : List Char) : List Char := fence ++ (info ++ '\n' :: text)

/-! ### Lines and fences -/

theorem afterLine?_append {info : List Char} (h : '\n' ∉ info) (rest : List Char) :
    afterLine? (info ++ '\n' :: rest) = some rest := by
  induction info with
  | nil => rfl
  | cons c info ih =>
    rw [List.mem_cons, not_or] at h
    rw [List.cons_append, afterLine?, if_neg (Ne.symm h.1), ih h.2]

theorem afterLine?_eq_none {text : List Char} (h : '\n' ∉ text) : afterLine? text = none := by
  induction text with
  | nil => rfl
  | cons c text ih =>
    rw [List.mem_cons, not_or] at h
    rw [afterLine?, if_neg (Ne.symm h.1), ih h.2]

theorem trimStart_fence (rest : List Char) : trimStart (fence ++ rest) = fence ++ rest :=
  trimStart_append_of_ne_nil (by decide) rest

theorem trimEnd_fence (text : List Char) : trimEnd (text ++ fence) = text ++ fence :=
  trimEnd_append_of_ne_nil (by decide) text

/-- A text that a fence opens is trimmed at its end only. -/
theorem trim_fence {before : List Char} (h : allBlank before = true) (rest : List Char) :
    trim (before ++ (fence ++ rest)) = fence ++ trimEnd rest := by
  have hend : trimEnd fence = fence := by decide
  rw [trim_append_left h, trim, trimStart_fence, trimEnd_append_of_trimEnd hend]

/-- Without a fence at its front a text is only trimmed. -/
theorem withoutFence_of_bare {text : List Char} (h : ¬fence <+: trim text) :
    withoutFence text = trim text := by
  rw [withoutFence]
  split
  · rfl
  · rename_i rest hrest
    exact absurd ⟨rest, (after?_eq_some_iff.mp hrest).symm⟩ h

/-- What is made of the text behind the line that opens a fence. -/
theorem withoutFence_of_line {text info inner : List Char}
    (h : trim text = fence ++ (info ++ '\n' :: inner)) (hi : '\n' ∉ info) :
    withoutFence text = trim ((before? fence (trimEnd inner)).getD inner) := by
  rw [withoutFence, h, after?_append]
  dsimp only
  rw [afterLine?_append hi]

/-- A fence at the end of a text is at the end of the trimmed text. -/
theorem fence_suffix_trim {text : List Char} (h : fence <:+ trimEnd text) :
    fence <:+ trim text := by
  obtain ⟨front, hfront⟩ := h
  rw [← trimStart_trimEnd, ← hfront]
  cases hblank : allBlank front with
  | true =>
    rw [trimStart_append_of_allBlank hblank]
    exact ⟨[], by decide⟩
  | false =>
    have hne : trimStart front ≠ [] := by
      rw [Ne, trimStart_eq_nil_iff, hblank]
      exact Bool.false_ne_true
    rw [trimStart_append_of_ne_nil hne]
    exact ⟨trimStart front, rfl⟩

/-! ### Fenced text -/

section
variable {before info text after : List Char}

/-- **Between two fences a text is only trimmed.** -/
theorem withoutFence_fenced (hb : allBlank before = true) (hi : '\n' ∉ info)
    (ha : allBlank after = true) :
    withoutFence (before ++ fenced info text ++ after) = trim text := by
  have hline : trim (before ++ fenced info text ++ after) =
      fence ++ (info ++ '\n' :: ((text ++ ['\n']) ++ fence)) := by
    have hend := trimEnd_fence (info ++ '\n' :: (text ++ ['\n']))
    rw [trim_append_right ha, fenced, trim_fence hb]
    simpa using hend
  have hclose : before? fence (trimEnd ((text ++ ['\n']) ++ fence)) = some (text ++ ['\n']) := by
    rw [trimEnd_fence, before?_eq_some_iff]
  have hnewline : allBlank ['\n'] = true := by decide
  rw [withoutFence_of_line hline hi, hclose, Option.getD_some, trim_append_right hnewline]

/-- **Behind a fence that nothing closes a text is only trimmed**, if it does not look as if it
closed the fence itself. -/
theorem withoutFence_fencedOpen (hb : allBlank before = true) (hi : '\n' ∉ info)
    (ha : allBlank after = true) (ht : ¬fence <:+ trim text) :
    withoutFence (before ++ fencedOpen info text ++ after) = trim text := by
  have hfence : trim (before ++ fencedOpen info text ++ after) =
      fence ++ trimEnd (info ++ '\n' :: text) := by
    rw [trim_append_right ha, fencedOpen, trim_fence hb]
  cases hblank : allBlank text with
  | true =>
    -- Nothing visible follows, and the line that opens the fence is all there is.
    have hrest : allBlank ('\n' :: text) = true := by
      rw [allBlank_cons, hblank]
      decide
    have hinfo : '\n' ∉ trimEnd info := by
      obtain ⟨back, -, heq⟩ := exists_back info
      intro hmem
      apply hi
      rw [heq]
      exact List.mem_append_left back hmem
    rw [trimEnd_append_of_allBlank hrest] at hfence
    rw [withoutFence, hfence, after?_append, trim_eq_nil_iff.mpr hblank]
    dsimp only
    rw [afterLine?_eq_none hinfo]
  | false =>
    have hne : trimEnd text ≠ [] := by
      rw [Ne, trimEnd_eq_nil_iff, hblank]
      exact Bool.false_ne_true
    have hrest : trimEnd ('\n' :: text) = '\n' :: trimEnd text := trimEnd_cons_of_ne_nil hne '\n'
    have hclose : before? fence (trimEnd (trimEnd text)) = none := by
      rw [trimEnd_trimEnd, Option.eq_none_iff_forall_ne_some]
      intro front hfront
      exact ht (fence_suffix_trim ⟨front, (before?_eq_some_iff.mp hfront).symm⟩)
    rw [trimEnd_append_of_ne_nil (by rw [hrest]; exact List.cons_ne_nil _ _), hrest] at hfence
    rw [withoutFence_of_line hfence hi, hclose, Option.getD_none, trim_trimEnd]

/-- A reply is read by what is in it without a fence. -/
theorem decode_congr {a b : List Char} (h : withoutFence a = withoutFence b) (V : Json.Validator)
    (words : Wording) :
    decode V words (String.ofList a) = decode V words (String.ofList b) := by
  have hvalue : value? (String.ofList a) = value? (String.ofList b) := by
    rw [value?, value?, String.toList_ofList, String.toList_ofList, h]
  have hunfenced : unfenced (String.ofList a) = unfenced (String.ofList b) := by
    rw [unfenced, unfenced, String.toList_ofList, String.toList_ofList, h]
  rw [decode, decode, hvalue, hunfenced]

theorem unfenced_ofList (text : List Char) :
    unfenced (String.ofList text) = String.ofList (withoutFence text) := by
  rw [unfenced, String.toList_ofList]

/-- **A code fence around a reply changes nothing.** Whatever blanks stand around the fence and
whatever its first line says, a text that does not open a fence itself comes out of it trimmed, as
it does without the fence, and is read as the same policy or the same failure, whatever checks it
and whatever is said of it. The fence that closes may be left out if the text does not end in
one. -/
theorem fence_transparent (hb : allBlank before = true) (hi : '\n' ∉ info)
    (ha : allBlank after = true) (ht : ¬fence <+: trim text) :
    let bare := String.ofList text
    let closed := String.ofList (before ++ fenced info text ++ after)
    let unclosed := String.ofList (before ++ fencedOpen info text ++ after)
    unfenced bare = String.ofList (trim text) ∧
      (unfenced closed = unfenced bare ∧
        ∀ V words, decode V words closed = decode V words bare) ∧
      (¬fence <:+ trim text → unfenced unclosed = unfenced bare ∧
        ∀ V words, decode V words unclosed = decode V words bare) := by
  have hbare := withoutFence_of_bare ht
  have hclosed : withoutFence (before ++ fenced info text ++ after) = withoutFence text :=
    (withoutFence_fenced hb hi ha).trans hbare.symm
  refine ⟨by rw [unfenced_ofList, hbare], ⟨?_, decode_congr hclosed⟩, fun hend => ?_⟩
  · rw [unfenced_ofList, hclosed, unfenced_ofList]
  · have hopen := (withoutFence_fencedOpen hb hi ha hend).trans hbare.symm
    exact ⟨by rw [unfenced_ofList, hopen, unfenced_ofList], decode_congr hopen⟩

end

/-- A reply with fences in its rationale, behind a fence that says more than a language and
between blanks that are not spaces. -/
theorem fence_transparent_nested :
    let before := "\u2003\n".toList
    let info := " json ```".toList
    let text :=
      "\n\x7b\"policy\": \"permit(\",\n\"rationale\": \"```\\n`\", \"riskTier\": \"LOW\"\x7d\n".toList
    let after := "\u0085".toList
    (allBlank before = true ∧ '\n' ∉ info ∧ allBlank after = true ∧ ¬fence <+: trim text ∧
      ¬fence <:+ trim text) ∧
    (read (String.ofList text)).toOption = some ⟨"permit(", "```\n`", .low⟩ ∧
    unfenced (String.ofList (before ++ fenced info text ++ after)) = unfenced (String.ofList text) ∧
    read (String.ofList (before ++ fenced info text ++ after)) = read (String.ofList text) ∧
    read (String.ofList (before ++ fencedOpen info text ++ after)) = read (String.ofList text) := by
  intro before info text after
  have hb : allBlank before = true := by decide
  have hi : '\n' ∉ info := by decide
  have ha : allBlank after = true := by decide
  have ht : ¬fence <+: trim text := by decide
  have hend : ¬fence <:+ trim text := by decide
  obtain ⟨-, ⟨hclosed, hdecode⟩, hopen⟩ := fence_transparent hb hi ha ht
  have hread : ∀ {a b : String}, (∀ V words, decode V words a = decode V words b) →
      read a = read b := by
    intro a b h
    simp only [read, h]
  exact ⟨⟨hb, hi, ha, ht, hend⟩, by decide +kernel, hclosed, hread hdecode,
    hread (hopen hend).2⟩

end Portcullis.Reply
