import Portcullis.Proofs.Policy.Layout

/-! A reader finds the statements of a document.

Inside a statement the phase of a reader is a function of the statement's text so far
(`Underway`): that is what a line preserves, and it is all that a later line sees of the
earlier ones. So a reader passes, text outside statements apart, the opening and the ending
of each statement of the layout, one after the other and nothing else
(`passages_layout`), and what it makes of a statement depends on that statement alone. -/
namespace Portcullis.Policy
open Text

/-! ### What is passed of a statement -/

/-- What an opening comes to when its statement ends so. -/
def Opening.outcome (o : Opening) : Ending → Reading
  | .delimited scope trailer => o.close scope (Nesting.none.breaks scope) trailer
  | .interrupted => .discarded ⟨o.line, .unterminated⟩
  | .givenUp => .discarded ⟨o.line, .unbalanced⟩

/-- The name that an annotation keeps ready. -/
def Annotation.id (a : Annotation) : String := String.ofList a.name

def Statement.opening (s : Statement) : Opening :=
  ⟨s.effect, UInt64.ofNat s.place, s.annotation.map Annotation.id⟩

/-- How a statement is read. -/
def Statement.reading (s : Statement) : Reading := s.opening.outcome s.ending

def Statement.passages (s : Statement) : List Passage := [.opened s.opening, .ended s.reading]

def Passage.isStray : Passage → Bool
  | .stray _ => true
  | _ => false

/-- What is passed of statements. -/
def ofStatements (ps : List Passage) : List Passage := ps.filter fun p => !p.isStray

/-! ### The phase inside a statement -/

/-- The phase of a reader that has this much of a statement behind it. -/
inductive Underway (o : Opening) : List Char → Phase → Prop where
  | scope {body} : Nesting.none.GoesOn body →
      Underway o body (.scope o body (Nesting.none.through body) (Nesting.none.breaks body))
  | trailer {scope text} : Whole scope → ';' ∉ text →
      Underway o (scope ++ ')' :: text) (.trailer o scope (Nesting.none.breaks scope) text)

section
variable {o : Opening} {sofar : List Char} {phase : Phase}

theorem Underway.unfinished (h : Underway o sofar phase) : Unfinished sofar := by
  cases h with
  | scope hgoes => exact .scope hgoes
  | trailer hw hsemi => exact .trailer hw hsemi

theorem Underway.opening (h : Underway o sofar phase) : phase.opening? = some o := by
  cases h <;> rfl

theorem Underway.abandon (h : Underway o sofar phase) (pending : Option String)
    (reason : DiscardReason) :
    Reader.abandon ⟨phase, pending⟩ reason =
      (⟨.outside, pending⟩, [.ended (.discarded ⟨o.line, reason⟩)]) := by
  simp only [Reader.abandon, h.opening]

/-- The reader finds something left open in a scope just when there is. -/
theorem Underway.isUnbalanced_iff (h : Underway o sofar phase) :
    phase.isUnbalanced = true ↔ Unbalanced sofar := by
  cases h with
  | scope hgoes =>
    simp only [Phase.isUnbalanced, Bool.or_eq_true, decide_eq_true_eq]
    exact ⟨fun hleft => ⟨hgoes, hleft⟩, fun hu => hu.left⟩
  | trailer hw hsemi =>
    simp only [Phase.isUnbalanced, Bool.false_eq_true, false_iff]
    exact fun hu => hw.not_goesOn _ hu.goesOn

/-- The end of a line inside a scope. -/
theorem Underway.scope_line {body text : List Char} (h : Nesting.none.GoesOn (body ++ text))
    (hline : '\n' ∉ text) :
    Underway o (body ++ text ++ ['\n'])
      (.scope o (body ++ text ++ ['\n'])
        {Nesting.none.through (body ++ text) with quoting := .outside}
        (Nesting.none.breaks body || (Nesting.none.through (body ++ text)).quoting ≠ .outside)) := by
  have hbreaks : Nesting.none.breaks (body ++ text ++ ['\n']) =
      (Nesting.none.breaks body ||
        decide ((Nesting.none.through (body ++ text)).quoting ≠ .outside)) := by
    rw [Nesting.breaks_append, Nesting.breaks_append,
      Nesting.breaks_of_notMem hline (Nesting.none.through body), Bool.or_false]
    simp [Nesting.breaks]
  have hgoes : Nesting.none.GoesOn (body ++ text ++ ['\n']) :=
    Nesting.goesOn_append.mpr ⟨h, Nesting.goesOn_of_notMem (by decide) _⟩
  have hu := Underway.scope (o := o) hgoes
  rwa [hbreaks, Nesting.through_newline] at hu

end

/-! ### Layouts from the middle of a line -/

/-- It does not matter how much of a statement's text counts as passed. -/
theorem Stretch.shift {a b text : List Char} {place : Nat} {later below : List Line}
    {ending : Ending} {last : Line} (h : Stretch (a ++ b) ⟨place, text⟩ later ending last below) :
    Stretch a ⟨place, b ++ text⟩ later ending last below := by
  generalize hcur : (⟨place, text⟩ : Line) = cur at h
  generalize hsofar : a ++ b = sofar at h
  cases h with
  | delimited htext hw hsemi =>
    subst hcur hsofar
    exact .delimited (by simpa using htext) hw hsemi
  | more hu ho hc hrest =>
    subst hcur hsofar
    simp only [List.append_assoc] at hu hc hrest
    exact .more (by simpa using hu) ho (by simpa using hc) (by simpa using hrest)
  | interrupted hu hnext =>
    subst hcur hsofar
    exact .interrupted (by simpa using hu) hnext
  | givenUp hb htrim =>
    subst hcur hsofar
    exact .givenUp (by simpa using hb) htrim

/-- What opens nothing on a line leaves its name, if it gives one, to the lines below. -/
theorem Laid.behind {ready : Option Annotation} {cur : Line} {later : List Line}
    {statements : List Statement} (ho : opener? (trimStart cur.text) = none)
    (h : Laid (cur.leaves ready) ⟨cur.place, []⟩ later statements) :
    Laid ready cur later statements := by
  cases h with
  | last => exact .last ho
  | line _ hrest => exact .line ho hrest
  | statement ho' => cases ho'

/-! ### Finding the statements -/

/-- From a line on, these passages come from the statements of a layout. -/
def Found (ready : Option Annotation) (cur : Line) (later : List Line) (ps : List Passage) :
    Prop :=
  ∃ statements, Laid ready cur later statements ∧
    ofStatements ps = statements.flatMap Statement.passages

/-- The same inside a statement, which comes to its end first. -/
def Finishes (o : Opening) (sofar : List Char) (cur : Line) (later : List Line)
    (ps : List Passage) : Prop :=
  ∃ ending last below statements, Stretch sofar cur later ending last below ∧
    Laid none last below statements ∧
    ofStatements ps = .ended (o.outcome ending) :: statements.flatMap Statement.passages

/-- What lies ahead of a reader in front of a text of a line: these lines below and these
passages. -/
structure Ahead (r : Reader) (cur : Line) (later : List Line) (ps : List Passage) : Prop where
  outside : ∀ ready, r = ⟨.outside, ready.map Annotation.id⟩ → Found ready cur later ps
  inside : ∀ o sofar, Underway o sofar r.phase → r.pending = none → Finishes o sofar cur later ps

theorem Ahead.of_outside {pending : Option String} {cur : Line} {later : List Line}
    {ps : List Passage}
    (h : ∀ ready : Option Annotation, pending = ready.map Annotation.id → Found ready cur later ps) :
    Ahead ⟨.outside, pending⟩ cur later ps where
  outside ready hr := h ready (congrArg Reader.pending hr)
  inside o sofar hu _ := by cases hu

theorem Ahead.of_inside {phase : Phase} {pending : Option String} {cur : Line}
    {later : List Line} {ps : List Passage} (hphase : phase ≠ .outside)
    (h : ∀ o sofar, Underway o sofar phase → pending = none → Finishes o sofar cur later ps) :
    Ahead ⟨phase, pending⟩ cur later ps where
  outside _ hr := absurd (congrArg Reader.phase hr) hphase
  inside o sofar := h o sofar

/-- The same for a reader that has the whole line behind it. -/
structure AheadBelow (r : Reader) (place : Nat) (later : List Line) (ps : List Passage) : Prop where
  outside : ∀ ready, r = ⟨.outside, ready.map Annotation.id⟩ → Found ready ⟨place, []⟩ later ps
  inside : ∀ o sofar text, Underway o (sofar ++ text ++ ['\n']) r.phase → r.pending = none →
    Finishes o sofar ⟨place, text⟩ later ps

/-- What has been found stays found behind text outside statements. -/
theorem Found.stray {ready : Option Annotation} {cur : Line} {later : List Line}
    {ps : List Passage} (h : Found ready cur later ps) (line : UInt64) :
    Found ready cur later (.stray line :: ps) := h

/-- A line that is passed by outside a statement. -/
theorem Found.behind {ready : Option Annotation} {cur : Line} {later : List Line}
    {ps : List Passage} (ho : opener? (trimStart cur.text) = none)
    (h : Found (cur.leaves ready) ⟨cur.place, []⟩ later ps) : Found ready cur later ps := by
  obtain ⟨statements, hlaid, hps⟩ := h
  exact ⟨statements, hlaid.behind ho, hps⟩

/-- A statement that opens is found when it comes to its end. -/
theorem Found.of_finishes {ready : Option Annotation} {place : Nat} {text rest : List Char}
    {effect : Effect} {later : List Line} {ps : List Passage}
    (ho : opener? (trimStart text) = some (effect, rest))
    (h : Finishes ⟨effect, UInt64.ofNat place, ready.map Annotation.id⟩ [] ⟨place, rest⟩ later ps) :
    Found ready ⟨place, text⟩ later
      (.opened ⟨effect, UInt64.ofNat place, ready.map Annotation.id⟩ :: ps) := by
  obtain ⟨ending, last, below, statements, hstretch, hlaid, hps⟩ := h
  refine ⟨⟨place, effect, ready, ending⟩ :: statements, .statement ho hstretch hlaid, ?_⟩
  exact congrArg (_ :: ·) hps

theorem Finishes.shift {o : Opening} {a b text : List Char} {place : Nat} {later : List Line}
    {ps : List Passage} (h : Finishes o (a ++ b) ⟨place, text⟩ later ps) :
    Finishes o a ⟨place, b ++ text⟩ later ps := by
  obtain ⟨ending, last, below, statements, hstretch, hrest⟩ := h
  exact ⟨ending, last, below, statements, hstretch.shift, hrest⟩

/-- **Following a line keeps to the layout**: what lies ahead behind the line lies ahead in
front of it, with the passages of the line before. -/
theorem Followed.ahead {place : Nat} {r last : Reader} {text : List Char} {ps more : List Passage}
    {later : List Line} (h : Followed (UInt64.ofNat place) r text last ps) (hline : '\n' ∉ text)
    (hlast : AheadBelow last place later more) : Ahead r ⟨place, text⟩ later (ps ++ more) := by
  induction h with
  | @opens pending text effect rest last passages ho _ ih =>
    have hrest : '\n' ∉ rest := fun hmem => hline ((opens_suffix ho).subset hmem)
    refine .of_outside fun ready hready => ?_
    subst hready
    exact .of_finishes ho ((ih hrest hlast).inside _ [] (.scope (Nesting.goesOn_nil _)) rfl)
  | @annotates pending text name ho ha =>
    refine .of_outside fun ready hready => ?_
    refine .behind ho ?_
    simp only [Line.leaves, ha]
    exact hlast.outside (some ⟨place, name⟩) rfl
  | @strays pending text ho ha hb =>
    refine .of_outside fun ready hready => ?_
    refine .behind ho ?_
    simp only [Line.leaves, ha]
    exact (hlast.outside ready (by rw [hready])).stray _
  | @rests pending text hb =>
    refine .of_outside fun ready hready => ?_
    have hnil := trimStart_eq_nil_iff.mpr hb
    refine .behind (by rw [hnil]; rfl) ?_
    simp only [Line.leaves, hnil]
    exact hlast.outside ready (by rw [hready])
  | @closes opening body nesting broken pending text inner rest last passages hs _ ih =>
    refine .of_inside (by simp) fun o sofar hu hp => ?_
    obtain ⟨rfl, hthrough, hgoes⟩ := goesOn_of_closed hline hs
    rw [List.mem_append, List.mem_cons, not_or, not_or] at hline
    cases hu with
    | scope hbody =>
      -- With its parenthesis the scope is text of the statement, and what follows is in front.
      have hw : Whole (body ++ inner) :=
        ⟨Nesting.goesOn_append.mpr ⟨hbody, hgoes⟩, by rw [Nesting.through_append, hthrough]⟩
      have hu := Underway.trailer (o := opening) hw (List.not_mem_nil (a := ';'))
      rw [Nesting.breaks_append, Nesting.breaks_of_notMem hline.1, Bool.or_false] at hu
      have hfin := (ih hline.2.2 hlast).inside opening _ hu hp
      rw [List.append_assoc] at hfin
      simpa using hfin.shift
  | @stays opening body nesting broken pending text inner left hs =>
    refine .of_inside (by simp) fun o sofar hu hp => ?_
    obtain ⟨rfl, rfl, hgoes⟩ :=
      (scanScope_running_iff (Nesting.breaks_of_notMem hline _)).mp hs
    cases hu with
    | scope hbody =>
      refine hlast.inside opening body _ ?_ hp
      have hu := Underway.scope_line (o := opening)
        (Nesting.goesOn_append.mpr ⟨hbody, hgoes⟩) hline
      rwa [Nesting.through_append] at hu
  | @ends opening scope broken sofar pending text before rest last passages hs _ ih =>
    refine .of_inside (by simp) fun o whole hu hp => ?_
    obtain ⟨rfl, hbefore⟩ := atSemicolon?_eq_some_iff.mp hs
    rw [List.mem_append, List.mem_cons, not_or, not_or] at hline
    subst hp
    cases hu with
    | trailer hw hsemi =>
      -- Behind the semicolon the reader is outside and has no name ready: it took it at the start.
      obtain ⟨statements, hlaid, hps⟩ := (ih hline.2.2 hlast).outside none rfl
      have hstretch : Stretch (scope ++ ')' :: sofar) ⟨place, before ++ ';' :: rest⟩ later
          (.delimited scope (sofar ++ before)) ⟨place, rest⟩ later :=
        .delimited (by simp) hw (by simp [hsemi, hbefore])
      exact ⟨_, _, _, statements, hstretch, hlaid, congrArg (_ :: ·) hps⟩
  | @waits opening scope broken sofar pending text hs =>
    refine .of_inside (by simp) fun o whole hu hp => ?_
    have hbefore := atSemicolon?_eq_none_iff.mp hs
    cases hu with
    | trailer hw hsemi =>
      refine hlast.inside opening _ text ?_ hp
      have hmore : ';' ∉ sofar ++ text ++ ['\n'] := by simp [hsemi, hbefore]
      simpa using Underway.trailer (o := opening) hw hmore

/-! ### Line by line -/

/-- The next line, from behind the line before. -/
theorem Found.below {ready : Option Annotation} {place : Nat} {next : Line} {later : List Line}
    {ps : List Passage} (h : Found ready next later ps) :
    Found ready ⟨place, []⟩ (next :: later) ps := by
  obtain ⟨statements, hlaid, hps⟩ := h
  exact ⟨statements, .line rfl hlaid, hps⟩

/-- A statement that goes on to the next line. -/
theorem Finishes.more {o : Opening} {sofar text : List Char} {place : Nat} {next : Line}
    {later : List Line} {ps : List Passage} (hu : Unfinished (sofar ++ text ++ ['\n']))
    (ho : opener? (trimStart next.text) = none)
    (hc : ¬(trim next.text = [')', ';'] ∧ Unbalanced (sofar ++ text ++ ['\n'])))
    (h : Finishes o (sofar ++ text ++ ['\n']) next later ps) :
    Finishes o sofar ⟨place, text⟩ (next :: later) ps := by
  obtain ⟨ending, last, below, statements, hstretch, hrest⟩ := h
  exact ⟨ending, last, below, statements, .more hu ho hc hstretch, hrest⟩

/-- A statement that is interrupted by the line below it. -/
theorem Finishes.interrupted {o : Opening} {sofar text : List Char} {place : Nat}
    {later : List Line} {ps : List Passage} (hu : Unfinished (sofar ++ text ++ ['\n']))
    (hnext : ∀ next ∈ later.head?, (opener? (trimStart next.text)).isSome = true)
    (h : Found none ⟨place, []⟩ later ps) :
    Finishes o sofar ⟨place, text⟩ later
      (.ended (.discarded ⟨o.line, .unterminated⟩) :: ps) := by
  obtain ⟨statements, hlaid, hps⟩ := h
  exact ⟨_, _, _, statements, .interrupted hu hnext, hlaid, congrArg (_ :: ·) hps⟩

/-- A statement that the next line gives up. -/
theorem Finishes.givenUp {o : Opening} {sofar text : List Char} {place : Nat} {next : Line}
    {later : List Line} {ps : List Passage} (hb : Unbalanced (sofar ++ text ++ ['\n']))
    (htrim : trim next.text = [')', ';']) (h : Found none ⟨next.place, []⟩ later ps) :
    Finishes o sofar ⟨place, text⟩ (next :: later)
      (.ended (.discarded ⟨o.line, .unbalanced⟩) :: ps) := by
  obtain ⟨statements, hlaid, hps⟩ := h
  exact ⟨_, _, _, statements, .givenUp hb htrim, hlaid, congrArg (_ :: ·) hps⟩

/-- At the end of the document an open statement is interrupted. -/
theorem aheadBelow_nil (r : Reader) (place : Nat) :
    AheadBelow r place [] (r.abandon .unterminated).2 where
  outside ready hr := by
    subst hr
    exact ⟨[], .last rfl, rfl⟩
  inside o sofar text hu hp := by
    obtain ⟨phase, pending⟩ := r
    rw [hu.abandon]
    exact .interrupted hu.unfinished (by simp) ⟨[], .last rfl, rfl⟩

/-- Reading a line keeps to the layout. -/
theorem readLine_ahead {raw : List Char} (hline : '\n' ∉ raw)
    (hvisible : ¬allBlank (withoutComment raw) = true) {r : Reader} {number place : Nat}
    {later : List Line} {more : List Passage}
    (hlast : AheadBelow (r.readLine (UInt64.ofNat number) raw).1 number later more) :
    AheadBelow r place (⟨number, withoutComment raw⟩ :: later)
      ((r.readLine (UInt64.ofNat number) raw).2 ++ more) := by
  have hfollow := fun r' : Reader => r'.followed (UInt64.ofNat number) (withoutComment raw)
  have htext : '\n' ∉ withoutComment raw :=
    fun hmem => hline ((withoutCommentFrom_front .outside raw).subset hmem)
  obtain ⟨phase, pending⟩ := r
  by_cases ho : (opener? (trimStart (withoutComment raw))).isSome = true
  · rw [readLine_opener ho] at hlast ⊢
    have hahead := (hfollow _).ahead htext hlast
    refine ⟨?_, ?_⟩
    · intro ready hr
      rw [abandon_outside (congrArg Reader.phase hr)] at hahead ⊢
      exact (hahead.outside ready hr).below
    · intro o sofar text hu hp
      obtain rfl : pending = none := hp
      rw [hu.abandon] at hahead ⊢
      exact .interrupted hu.unfinished (by simpa using ho) (hahead.outside none rfl).below
  · have hnone : opener? (trimStart (withoutComment raw)) = none := by simpa using ho
    by_cases hc : trim (withoutComment raw) = [')', ';'] ∧ phase.isUnbalanced = true
    · rw [readLine_closer hvisible ho hc] at hlast ⊢
      refine ⟨?_, ?_⟩
      · intro ready hr
        obtain rfl : phase = .outside := congrArg Reader.phase hr
        cases hc.2
      · intro o sofar text hu hp
        obtain rfl : pending = none := hp
        rw [hu.abandon] at hlast ⊢
        exact .givenUp (hu.isUnbalanced_iff.mp hc.2) hc.1 (hlast.outside none rfl)
    · rw [readLine_inner hvisible ho hc] at hlast ⊢
      have hahead := (hfollow _).ahead htext hlast
      refine ⟨fun ready hr => (hahead.outside ready hr).below, ?_⟩
      intro o sofar text hu hp
      have hcloser : ¬(trim (withoutComment raw) = [')', ';'] ∧
          Unbalanced (sofar ++ text ++ ['\n'])) :=
        fun h => hc ⟨h.1, hu.isUnbalanced_iff.mpr h.2⟩
      exact .more hu.unfinished hnone hcloser (hahead.inside o _ hu hp)

/-- **Reading lines keeps to the layout.** -/
theorem readLines_ahead {raws : List (List Char)} (hlines : ∀ raw ∈ raws, '\n' ∉ raw)
    (r : Reader) (number place : Nat) :
    AheadBelow r place (visibleFrom number raws) (r.readLines (UInt64.ofNat number) raws) := by
  induction raws generalizing r number place with
  | nil => exact aheadBelow_nil r place
  | cons raw raws ih =>
    obtain ⟨hline, hlines⟩ := List.forall_mem_cons.mp hlines
    have hnext : UInt64.ofNat number + 1 = UInt64.ofNat (number + 1) := by
      rw [UInt64.ofNat_add]
      rfl
    rw [readLines_cons, visibleFrom, hnext]
    by_cases hvisible : allBlank (withoutComment raw) = true
    · rw [if_pos hvisible, readLine_blank hvisible]
      exact ih hlines r (number + 1) place
    · rw [if_neg hvisible]
      exact readLine_ahead hline hvisible (ih hlines _ (number + 1) number)

/-- **A document has a layout, and what is passed in it are its statements.** -/
theorem passages_layout (document : String) :
    ∃ statements, Layout document statements ∧
      ofStatements (passages document) = statements.flatMap Statement.passages :=
  (readLines_ahead (fun _ => newline_notMem_of_mem_lines) .start 1 0).outside none rfl

/-! ### The report -/

/-- The draft that a reading leaves, if it is accepted. -/
def Reading.draft? : Reading → Option Draft
  | .accepted opening principal action => some ⟨opening, principal, action⟩
  | .discarded _ => none

def Reading.discarded? : Reading → Option Discarded
  | .accepted .. => none
  | .discarded block => some block

/-- What a report keeps of passages, it keeps of those that come from statements. -/
theorem filterMap_ofStatements {α : Type} {keep : Passage → Option α}
    (h : ∀ line, keep (.stray line) = none) (ps : List Passage) :
    (ofStatements ps).filterMap keep = ps.filterMap keep := by
  rw [ofStatements, List.filterMap_filter]
  congr 1
  funext p
  cases p with
  | opened => rfl
  | ended => rfl
  | stray line => exact (h line).symm

theorem filterMap_flatMap_passages {α : Type} {keep : Passage → Option α}
    (h : ∀ opening, keep (.opened opening) = none) (statements : List Statement) :
    (statements.flatMap Statement.passages).filterMap keep =
      statements.filterMap fun s => keep (.ended s.reading) := by
  induction statements with
  | nil => rfl
  | cons s statements ih =>
    rw [List.flatMap_cons, List.filterMap_append, ih]
    cases hk : keep (.ended s.reading) <;> simp [Statement.passages, h, hk]

/-- Of each reading a report has one entry. -/
theorem length_entries (statements : List Statement) :
    (statements.filterMap fun s => s.reading.draft?).length +
      (statements.filterMap fun s => s.reading.discarded?).length = statements.length := by
  induction statements with
  | nil => rfl
  | cons s statements ih =>
    rw [List.filterMap_cons, List.filterMap_cons, List.length_cons, ← ih]
    cases s.reading with
    | accepted => exact Nat.add_right_comm _ _ _
    | discarded => exact (Nat.add_assoc _ _ _).symm

/-- **A report is made of the readings of the document's statements**: accepted ones become
rules, named by their places among the rules, and the other ones are discarded. -/
theorem report_of_passages {document : String} {statements : List Statement}
    (hps : ofStatements (passages document) = statements.flatMap Statement.passages) :
    report document =
      ⟨numbered 0 (statements.filterMap fun s => s.reading.draft?),
        statements.filterMap fun s => s.reading.discarded?⟩ := by
  have hkeep : ∀ {α : Type} {keep : Passage → Option α}, (∀ line, keep (.stray line) = none) →
      (∀ opening, keep (.opened opening) = none) →
      (passages document).filterMap keep =
        statements.filterMap fun s => keep (.ended s.reading) := by
    intro α keep hstray hopened
    rw [← filterMap_ofStatements hstray, hps, filterMap_flatMap_passages hopened]
  have hdraft : ∀ r : Reading, Passage.draft? (.ended r) = r.draft? := by
    intro r
    cases r <;> rfl
  have hdiscarded : ∀ r : Reading, Passage.discarded? (.ended r) = r.discarded? := by
    intro r
    cases r <;> rfl
  rw [report_eq, drafts, hkeep (fun _ => rfl) (fun _ => rfl), hkeep (fun _ => rfl) (fun _ => rfl)]
  simp only [hdraft, hdiscarded]

/-- The same said of the layout. -/
theorem report_of_layout {document : String} {statements : List Statement}
    (h : Layout document statements) :
    report document =
      ⟨numbered 0 (statements.filterMap fun s => s.reading.draft?),
        statements.filterMap fun s => s.reading.discarded?⟩ := by
  obtain ⟨statements', hlayout, hps⟩ := passages_layout document
  obtain rfl := h.unique hlayout
  exact report_of_passages hps

end Portcullis.Policy
