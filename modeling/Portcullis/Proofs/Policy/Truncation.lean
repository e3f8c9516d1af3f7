import Portcullis.Proofs.Policy.Reading
import Portcullis.Proofs.Policy.Scanning

/-! A text that is cut off.

What follows in a text takes back none of the rules in front of it, so a policy that arrives
cut short, in the middle of a word even, has the first rules of the whole and no other
(`rules_truncated`). A rule is made at a semicolon, and up to its last semicolon a line that
is cut is read as the whole line is (`Followed.front`). Behind it the two may part: the cut
may leave half of an opener or of a comment's mark, and the line `);` may have been another
line. None of this brings a semicolon. -/
namespace Portcullis.Policy
open Text

/-- The drafts among what is passed. -/
def accepted (ps : List Passage) : List Draft := ps.filterMap Passage.draft?

@[simp] theorem accepted_nil : accepted [] = [] := rfl

@[simp] theorem accepted_opened (o : Opening) (ps : List Passage) :
    accepted (.opened o :: ps) = accepted ps := rfl

@[simp] theorem accepted_stray (line : UInt64) (ps : List Passage) :
    accepted (.stray line :: ps) = accepted ps := rfl

@[simp] theorem accepted_append (a b : List Passage) :
    accepted (a ++ b) = accepted a ++ accepted b :=
  List.filterMap_append

theorem accepted_cons (p : Passage) (ps : List Passage) :
    accepted (p :: ps) = p.draft?.toList ++ accepted ps := by
  rw [accepted, List.filterMap_cons]
  cases p.draft? <;> rfl

@[simp] theorem accepted_discarded (block : Discarded) (ps : List Passage) :
    accepted (.ended (.discarded block) :: ps) = accepted ps := rfl

theorem accepted_abandon (r : Reader) (reason : DiscardReason) :
    accepted (r.abandon reason).2 = [] := by
  obtain ⟨phase, pending⟩ := r
  cases phase <;> rfl

/-! ### One line -/

/-- Without a semicolon no statement is accepted. -/
theorem Followed.accepts_nothing {line : UInt64} {r last : Reader} {text : List Char}
    {ps : List Passage} (h : Followed line r text last ps) (hs : ';' ∉ text) :
    accepted ps = [] := by
  induction h with
  | opens ho _ ih =>
    obtain ⟨lead, gap, _, _, rfl⟩ := opens_iff.mp ho
    simp only [List.mem_append, List.mem_cons, not_or] at hs
    exact ih hs.2.2.2.2
  | annotates => rfl
  | strays => rfl
  | rests => rfl
  | closes hscan _ ih =>
    rw [scanScope_closed hscan] at hs
    simp only [List.mem_append, List.mem_cons, not_or] at hs
    exact ih hs.2.2
  | stays => rfl
  | ends hsemi _ _ => rw [atSemicolon?_eq_none_iff.mpr hs] at hsemi; cases hsemi
  | waits => rfl

/-- A text that opens nothing is followed by nothing that is accepted, unless a semicolon is
in it. -/
theorem accepts_nothing_behind {text : List Char} (h : opener? (trimStart text) = none)
    {back : List Char} (hs : ';' ∉ back) (pending : Option String) (line : UInt64) :
    accepted (Reader.follow ⟨.outside, pending⟩ line (text ++ back)).2 = [] := by
  have hf := Reader.followed ⟨.outside, pending⟩ line (text ++ back)
  generalize Reader.follow ⟨.outside, pending⟩ line (text ++ back) = reading at hf ⊢
  obtain ⟨last, ps⟩ := reading
  cases hf with
  | opens ho hrest =>
    obtain ⟨_, _, tail, _, _, _, rfl⟩ := of_opens_append ho h
    simp only [List.mem_append, List.mem_cons, not_or] at hs
    exact hrest.accepts_nothing hs.2.2
  | annotates => rfl
  | strays => rfl
  | rests => rfl

/-- So too in a scope that a text leaves open. -/
theorem accepts_nothing_past {opening : Opening} {body : List Char} {nesting left : Nesting}
    {broken : Bool} {pending : Option String} {line : UInt64} {text more back : List Char}
    (h : scanScope nesting text = .running more left) (hs : ';' ∉ back) :
    accepted (Reader.follow ⟨.scope opening body nesting broken, pending⟩ line (text ++ back)).2 =
      [] := by
  have hf := Reader.followed ⟨.scope opening body nesting broken, pending⟩ line (text ++ back)
  generalize Reader.follow ⟨.scope opening body nesting broken, pending⟩ line (text ++ back) =
    reading at hf ⊢
  obtain ⟨last, ps⟩ := reading
  cases hf with
  | closes hscan hrest =>
    obtain ⟨inner, rfl⟩ := scanScope_closed_behind h hscan
    simp only [List.mem_append, List.mem_cons, not_or] at hs
    exact hrest.accepts_nothing hs.2.2
  | stays => rfl

/-- **What is accepted on a line is not taken back by more of it**, and without a semicolon
more of it adds nothing. -/
theorem Followed.front {line : UInt64} {r last : Reader} {text : List Char} {ps : List Passage}
    (h : Followed line r text last ps) (back : List Char) :
    ∃ more, accepted (r.follow line (text ++ back)).2 = accepted ps ++ more ∧
      (';' ∉ back → more = []) := by
  -- A step that goes on is taken in the longer text too; where following stops short, all
  -- that is accepted comes from what is added.
  induction h with
  | opens ho _ ih =>
    rw [(Followed.opens (opens_append ho back) (Reader.followed _ _ _)).follow_eq]
    exact ih
  | annotates ho _ => exact ⟨_, rfl, fun hs => accepts_nothing_behind ho hs _ _⟩
  | strays ho _ _ => exact ⟨_, rfl, fun hs => accepts_nothing_behind ho hs _ _⟩
  | @rests pending text hb =>
    have ho : opener? (trimStart text) = none := by
      rw [trimStart_eq_nil_iff.mpr hb]
      exact opener?_nil
    exact ⟨_, rfl, fun hs => accepts_nothing_behind ho hs _ _⟩
  | @closes opening body nesting broken pending text more rest last ps hscan _ ih =>
    have hlonger : scanScope nesting (text ++ back) = .closed more (rest ++ back) := by
      rw [scanScope_append, hscan]
    rw [(Followed.closes hlonger (Reader.followed _ _ _)).follow_eq]
    exact ih
  | stays hscan => exact ⟨_, rfl, fun hs => accepts_nothing_past hscan hs⟩
  | @ends opening body broken sofar pending text before rest last ps hsemi _ ih =>
    obtain ⟨rfl, hbefore⟩ := atSemicolon?_eq_some_iff.mp hsemi
    have hlonger : atSemicolon? (before ++ ';' :: rest ++ back) = some (before, rest ++ back) := by
      rw [List.append_assoc]
      exact atSemicolon?_append hbefore _
    rw [(Followed.ends hlonger (Reader.followed _ _ _)).follow_eq]
    obtain ⟨more, hmore, hnone⟩ := ih
    exact ⟨more, by rw [accepted_cons, accepted_cons, hmore, List.append_assoc], hnone⟩
  | @waits opening body broken sofar pending text hsemi =>
    refine ⟨_, rfl, fun hs => ?_⟩
    have hnone : atSemicolon? (text ++ back) = none := by
      rw [atSemicolon?_eq_none_iff, List.mem_append, not_or]
      exact ⟨atSemicolon?_eq_none_iff.mp hsemi, hs⟩
    rw [(Followed.waits hnone).follow_eq]
    rfl

/-! ### The last line of a text that is cut off -/

/-- What the text of a line can become when the line is cut: a front part of it, or all of it
with half of a comment's mark or of a line end behind it. -/
def CutText (text cut : List Char) : Prop :=
  cut <+: text ∨ ∃ mark, (mark = '/' ∨ mark = '\r') ∧ cut = text ++ [mark]

theorem cutText_of_cutLine {line cut : List Char} (h : CutLine line cut) :
    CutText (withoutComment line) (withoutComment cut) := by
  rcases h with ⟨back, rfl⟩ | rfl
  · rcases withoutCommentFrom_append .outside cut back with ⟨more, -, heq⟩ | ⟨-, heq⟩
    · exact .inl ⟨more, heq.symm⟩
    · exact .inr ⟨'/', .inl rfl, heq⟩
  · rcases withoutCommentFrom_append .outside line ['\r'] with ⟨more, hmore, heq⟩ | ⟨hhead, -⟩
    · rcases List.prefix_cons_iff.mp hmore with rfl | ⟨rest, rfl, hrest⟩
      · rw [List.append_nil] at heq
        exact .inl ⟨[], by rw [List.append_nil]; exact heq⟩
      · obtain rfl := List.prefix_nil.mp hrest
        exact .inr ⟨'\r', .inr rfl, heq⟩
    · exact absurd hhead (by decide)

/-- What half of a mark adds is neither a semicolon nor a parenthesis. -/
theorem notMem_mark {mark : Char} (h : mark = '/' ∨ mark = '\r') : ';' ∉ [mark] ∧ '(' ∉ [mark] := by
  rcases h with rfl | rfl <;> decide

theorem CutText.accepted_follow {text cut : List Char} (h : CutText text cut) (r : Reader)
    (line : UInt64) : accepted (r.follow line cut).2 <+: accepted (r.follow line text).2 := by
  rcases h with ⟨back, rfl⟩ | ⟨mark, hmark, rfl⟩
  · obtain ⟨more, hmore, -⟩ := (r.followed line cut).front back
    exact ⟨more, hmore.symm⟩
  · obtain ⟨more, hmore, hnone⟩ := (r.followed line text).front [mark]
    have hsame := hmore
    rw [hnone (notMem_mark hmark).1, List.append_nil] at hsame
    exact hsame ▸ List.prefix_refl _

/-- Where the text of the whole line opens a statement and what is left of it does not, the
cut went through the opener. -/
theorem CutText.semicolon_notMem {text cut : List Char} (h : CutText text cut)
    (ho : (opener? (trimStart text)).isSome = true) (hnone : opener? (trimStart cut) = none) :
    ';' ∉ cut := by
  obtain ⟨⟨effect, rest⟩, hopens⟩ := Option.isSome_iff_exists.mp ho
  rcases h with ⟨back, rfl⟩ | ⟨mark, -, rfl⟩
  · obtain ⟨lead, gap, tail, hl, hg, htail, -⟩ := of_opens_append hopens hnone
    have hopener : ';' ∉ cut ++ tail := by
      rw [htail]
      simp only [List.mem_append, not_or]
      refine ⟨not_mem_of_allBlank hl (by decide), ?_, not_mem_of_allBlank hg (by decide)⟩
      cases effect <;> decide
    exact fun hmem => hopener (List.mem_append_left tail hmem)
  · rw [opens_append hopens] at hnone
    cases hnone

/-- Where something is left of a line that is blank, it is half of a mark. -/
theorem CutText.semicolon_notMem_of_blank {text cut : List Char} (h : CutText text cut)
    (hb : allBlank text = true) (hcut : ¬allBlank cut = true) : ';' ∉ cut := by
  rcases h with ⟨back, rfl⟩ | ⟨mark, hmark, rfl⟩
  · rw [allBlank_append, Bool.and_eq_true] at hb
    exact absurd hb.1 hcut
  · rw [List.mem_append, not_or]
    exact ⟨not_mem_of_allBlank hb (by decide), (notMem_mark hmark).1⟩

/-- And the other way round: what opens a statement on a line that is cut opens it on the
whole line. -/
theorem CutText.opens {text cut : List Char} (h : CutText text cut)
    (ho : (opener? (trimStart cut)).isSome = true) :
    (opener? (trimStart text)).isSome = true := by
  obtain ⟨⟨effect, rest⟩, hopens⟩ := Option.isSome_iff_exists.mp ho
  rcases h with ⟨back, rfl⟩ | ⟨mark, hmark, rfl⟩
  · rw [opens_append hopens]
    rfl
  · cases hnone : opener? (trimStart text) with
    | some opening => rfl
    | none =>
      obtain ⟨_, _, tail, _, _, _, htail⟩ := of_opens_append hopens hnone
      refine absurd ?_ (notMem_mark hmark).2
      rw [htail]
      exact List.mem_append_right tail List.mem_cons_self

/-- A statement that has something left open is not accepted at `);`, however it is read. -/
theorem accepts_nothing_unbalanced {r : Reader} (hu : r.phase.isUnbalanced = true)
    {text : List Char} (h : trim text = [')', ';']) (line : UInt64) :
    accepted (r.follow line text).2 = [] := by
  obtain ⟨front, back, hf, hb, rfl⟩ := exists_of_trim_closer h
  obtain ⟨phase, pending⟩ := r
  cases phase with
  | outside => cases hu
  | trailer => cases hu
  | scope o body nesting broken =>
    by_cases hn : nesting = .none
    · -- Nothing else is open, so a line ended inside a literal.
      subst hn
      obtain rfl : broken = true := by simpa [Phase.isUnbalanced] using hu
      have hscan : scanScope .none (front ++ ')' :: ';' :: back) = .closed front (';' :: back) :=
        scanScope_end (.blank hf) _
      rw [(Followed.closes hscan (.ends rfl (.rests hb))).follow_eq]
      rfl
    · have hback : ')' ∉ ';' :: back := by
        simpa using not_mem_of_allBlank hb (c := ')') (by decide)
      obtain ⟨m, hm, hgap⟩ := scanScope_gap hf hn
      obtain ⟨more, left, hrest⟩ := scanScope_of_notMem hback (m.step ')')
      have hscan : scanScope nesting (front ++ ')' :: ';' :: back) =
          .running (front ++ ')' :: more) left := by
        rw [hgap, scanScope_cons (by decide), if_neg fun hc => hm hc.2, hrest]
        exact behind_running front (')' :: more) left
      rw [(Followed.stays hscan).follow_eq]
      rfl

/-- **What is accepted on the last line of a text that is cut off is accepted on the line of
the whole text.** -/
theorem accepted_readLine_cut {raw cut : List Char} (h : CutLine raw cut) (r : Reader)
    (line : UInt64) : accepted (r.readLine line cut).2 <+: accepted (r.readLine line raw).2 := by
  have htext := cutText_of_cutLine h
  by_cases hb : allBlank (withoutComment cut) = true
  · rw [readLine_blank hb]
    exact List.nil_prefix
  by_cases ho : (opener? (trimStart (withoutComment cut))).isSome = true
  · rw [readLine_opener ho, readLine_opener (htext.opens ho), accepted_append, accepted_append,
      accepted_abandon, List.nil_append]
    exact htext.accepted_follow _ line
  by_cases hc : trim (withoutComment cut) = [')', ';'] ∧ r.phase.isUnbalanced = true
  · rw [readLine_closer hb ho hc, accepted_abandon]
    exact List.nil_prefix
  rw [readLine_inner hb ho hc]
  by_cases hb' : allBlank (withoutComment raw) = true
  · have hsemi : ';' ∉ withoutComment cut := htext.semicolon_notMem_of_blank hb' hb
    rw [(r.followed line _).accepts_nothing hsemi]
    exact List.nil_prefix
  by_cases ho' : (opener? (trimStart (withoutComment raw))).isSome = true
  · have hnone := Option.not_isSome_iff_eq_none.mp ho
    rw [(r.followed line _).accepts_nothing (htext.semicolon_notMem ho' hnone)]
    exact List.nil_prefix
  by_cases hc' : trim (withoutComment raw) = [')', ';'] ∧ r.phase.isUnbalanced = true
  · rw [readLine_closer hb' ho' hc', accepted_abandon, ← accepts_nothing_unbalanced hc'.2 hc'.1 line]
    exact htext.accepted_follow r line
  · rw [readLine_inner hb' ho' hc']
    exact htext.accepted_follow r line

/-! ### Texts -/

theorem accepted_readLines_cons (r : Reader) (line : UInt64) (raw : List Char)
    (rest : List (List Char)) :
    accepted (r.readLines line (raw :: rest)) =
      accepted (r.readLine line raw).2 ++
        accepted ((r.readLine line raw).1.readLines (line + 1) rest) := by
  rw [readLines_cons, accepted_append]

/-- Nothing more is accepted at the end of a document. -/
theorem accepted_readLines_nil (r : Reader) (line : UInt64) :
    accepted (r.readLines line []) = [] :=
  accepted_abandon r .unterminated

theorem accepted_readLines_front (r : Reader) (line : UInt64) (front back : List Char) :
    accepted (r.readLines line (lines front)) <+:
      accepted (r.readLines line (lines (front ++ back))) := by
  rcases lines_cut front back with h | ⟨before, cut, raw, after, hfront, hwhole, hcut⟩
  · rw [h, readLines_eq, readLines_append, accepted_append, accepted_append, accepted_abandon,
      List.append_nil]
    exact List.prefix_append _ _
  · -- Up to the line of the cut both are the same; there the cut drops drafts from the end.
    rw [hfront, hwhole, readLines_append, readLines_append, accepted_append, accepted_append,
      List.prefix_append_right_inj, accepted_readLines_cons, accepted_readLines_nil,
      List.append_nil, accepted_readLines_cons]
    exact (accepted_readLine_cut hcut _ _).trans (List.prefix_append _ _)

theorem numbered_front {a b : List Draft} (h : a <+: b) (place : Nat) :
    numbered place a <+: numbered place b := by
  obtain ⟨rest, rfl⟩ := h
  rw [numbered_append]
  exact List.prefix_append _ _

/-- **Cutting a text off drops rules from its end and changes none**, wherever it is cut. -/
theorem rules_truncated (text : String) (k : Nat) :
    rules (String.ofList (text.toList.take k)) <+: rules text := by
  have hdrafts := accepted_readLines_front .start 1 (text.toList.take k) (text.toList.drop k)
  rw [List.take_append_drop] at hdrafts
  rw [rules_eq, rules_eq, drafts, drafts, passages, passages, String.toList_ofList]
  exact numbered_front hdrafts 0

end Portcullis.Policy
