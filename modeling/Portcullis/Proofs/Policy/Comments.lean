import Mathlib.Data.List.Basic
import Portcullis.Proofs.Policy.Accounting
import Portcullis.Proofs.Policy.Displacement
import Portcullis.Proofs.Policy.Literals

/-! Comments and blank lines.

A line is read without its comment, and if nothing is left of it the reader does not notice it:
whatever is open stays open as it is. So a comment at the end of a line is nothing to any reader,
as long as the scan for comments is outside a literal there. A line of blanks only moves the lines
below it: the statements of the document are the same, and those that open below have the next
number (`Laid.renumber`). **Comments and blank lines are not seen** (`comments_unseen`). -/
namespace Portcullis.Policy
open Text

/-! ### Comments at the end of a line -/

/-- The scan for comments ends outside a literal: at a comment, or else at the end of the line. -/
def EndsOutside (line : List Char) : Prop :=
  withoutComment line = line → Quoting.outside.through line = .outside

/-- Behind a comment everything belongs to it. -/
theorem withoutCommentFrom_of_cut {q : Quoting} {line : List Char}
    (h : withoutCommentFrom q line ≠ line) (more : List Char) :
    withoutCommentFrom q (line ++ more) = withoutCommentFrom q line := by
  have htail : ∀ {q : Quoting} {c : Char} {rest : List Char},
      c :: withoutCommentFrom q rest ≠ c :: rest → withoutCommentFrom q rest ≠ rest :=
    fun hcut heq => hcut (by rw [heq])
  fun_induction withoutCommentFrom q line with
  | case1 => exact absurd rfl h
  | case2 c rest ih => exact congrArg (c :: ·) (ih (htail h))
  | case3 c rest ih => exact congrArg (c :: ·) (ih (htail h))
  | case4 => rfl
  | case5 c rest hslash ih =>
    have hne : rest ≠ [] := by
      rintro rfl
      exact htail h rfl
    have hcut : ¬(c = '/' ∧ (rest ++ more).head? = some '/') :=
      not_cut_append hslash fun hrest => absurd hrest hne
    rw [List.cons_append, withoutCommentFrom_outside hcut]
    exact congrArg (c :: ·) (ih (htail h))

/-- **A comment leaves the text in front of it as it is**, unless its first slash stands behind
another one. -/
theorem withoutComment_comment {line : List Char} (h : EndsOutside line)
    (hslash : line.getLast? ≠ some '/') (text : List Char) :
    withoutComment (line ++ '/' :: '/' :: text) = withoutComment line := by
  by_cases hcut : withoutComment line = line
  · have hgone : withoutCommentFrom .outside ('/' :: '/' :: text) = [] := rfl
    rw [withoutComment, withoutCommentFrom_through hcut fun _ hlast => absurd hlast hslash, h hcut,
      hgone, List.append_nil, hcut]
  · exact withoutCommentFrom_of_cut hcut _

theorem readLine_congr {raw raw' : List Char} (h : withoutComment raw = withoutComment raw')
    (r : Reader) (line : UInt64) : r.readLine line raw = r.readLine line raw' := by
  rw [Reader.readLine, Reader.readLine, h]

/-- A line that differs from another one in its comment only may stand in its place. -/
theorem readLines_congr {raw raw' : List Char} (h : withoutComment raw = withoutComment raw')
    (r : Reader) (line : UInt64) (above below : List (List Char)) :
    r.readLines line (above ++ raw :: below) = r.readLines line (above ++ raw' :: below) := by
  rw [readLines_append, readLines_append, readLines_cons, readLines_cons, readLine_congr h]

/-! ### Other numbers for lines -/

def Line.renumber (f : Nat → Nat) (l : Line) : Line := {l with place := f l.place}

def Annotation.renumber (f : Nat → Nat) (a : Annotation) : Annotation := {a with place := f a.place}

def Statement.renumber (f : Nat → Nat) (s : Statement) : Statement :=
  {s with place := f s.place, annotation := s.annotation.map fun a => a.renumber f}

section
variable {cur last : Line} {later below : List Line} (f : Nat → Nat)

/-- How a statement goes on and ends is not a matter of the numbers of its lines. -/
theorem Stretch.renumber {sofar : List Char} {ending : Ending}
    (h : Stretch sofar cur later ending last below) :
    Stretch sofar (cur.renumber f) (later.map (Line.renumber f)) ending (last.renumber f)
      (below.map (Line.renumber f)) := by
  induction h with
  | delimited htext hw hsemi => exact .delimited htext hw hsemi
  | more hu ho hc _ ih => exact .more hu ho hc ih
  | interrupted hu hnext =>
    refine .interrupted hu fun next hmem => ?_
    rw [List.head?_map, Option.mem_def, Option.map_eq_some_iff] at hmem
    obtain ⟨line, hline, rfl⟩ := hmem
    exact hnext line hline
  | givenUp hb htrim => exact .givenUp hb htrim

theorem Line.leaves_renumber (cur : Line) (ready : Option Annotation) :
    (cur.renumber f).leaves (ready.map fun a => a.renumber f) =
      (cur.leaves ready).map fun a => a.renumber f := by
  cases ha : annotation? (trimStart cur.text) <;>
    simp [Line.leaves, Line.renumber, ha, Annotation.renumber]

/-- **Lines with other numbers have the same statements, with these numbers.** -/
theorem Laid.renumber {ready : Option Annotation} {statements : List Statement}
    (h : Laid ready cur later statements) :
    Laid (ready.map fun a => a.renumber f) (cur.renumber f) (later.map (Line.renumber f))
      (statements.map (Statement.renumber f)) := by
  induction h with
  | last ho => exact .last ho
  | line ho _ ih =>
    rw [← Line.leaves_renumber] at ih
    exact .line ho ih
  | statement ho hs _ ih => exact .statement ho (hs.renumber f) ih

end

/-! ### A line that is put in -/

/-- The number that a line gets when another one is put in behind the first `n`. -/
def lowered (n place : Nat) : Nat := if n < place then place + 1 else place

theorem visibleFrom_append (place : Nat) (above below : List (List Char)) :
    visibleFrom place (above ++ below) =
      visibleFrom place above ++ visibleFrom (place + above.length) below := by
  induction above generalizing place with
  | nil => rfl
  | cons raw above ih =>
    have hplace : place + 1 + above.length = place + (above.length + 1) := by omega
    rw [List.cons_append, visibleFrom, visibleFrom, ih, hplace, List.length_cons]
    split <;> rfl

/-- Below the line that is put in all numbers are greater by one. -/
theorem visibleFrom_below {n place : Nat} (h : n < place) (raws : List (List Char)) :
    visibleFrom (place + 1) raws = (visibleFrom place raws).map (Line.renumber (lowered n)) := by
  induction raws generalizing place with
  | nil => rfl
  | cons raw raws ih =>
    rw [visibleFrom, visibleFrom, ih (Nat.lt_succ_of_lt h)]
    split
    · rfl
    · rw [List.map_cons, Line.renumber, lowered, if_pos h]

/-- Above it they stay. -/
theorem visibleFrom_above {n place : Nat} {raws : List (List Char)}
    (h : place + raws.length ≤ n + 1) :
    (visibleFrom place raws).map (Line.renumber (lowered n)) = visibleFrom place raws := by
  refine (List.map_congr_left fun l hl => ?_).trans (List.map_id _)
  obtain ⟨i, raw, hraw, -, rfl⟩ := mem_visibleFrom_iff.mp hl
  have hi := (List.getElem?_eq_some_iff.mp hraw).1
  have hplace : ¬n < place + i := by omega
  simp [Line.renumber, lowered, hplace]

section
variable {document changed : String} {above below : List (List Char)} {raw : List Char}

theorem visibleLines_blank (h : lines document.toList = above ++ below)
    (h' : lines changed.toList = above ++ raw :: below)
    (hblank : allBlank (withoutComment raw) = true) :
    visibleLines changed = (visibleLines document).map (Line.renumber (lowered above.length)) := by
  have hplace : above.length < 1 + above.length := by omega
  have hbelow := visibleFrom_below hplace below
  rw [visibleLines, visibleLines, h, h', visibleFrom_append, visibleFrom_append, List.map_append,
    visibleFrom_above (by omega), visibleFrom, if_pos hblank, hbelow]

/-- **A blank line moves the statements that open below it down by one line.** -/
theorem Layout.blank {statements : List Statement} (hlayout : Layout document statements)
    (h : lines document.toList = above ++ below)
    (h' : lines changed.toList = above ++ raw :: below)
    (hblank : allBlank (withoutComment raw) = true) :
    Layout changed (statements.map (Statement.renumber (lowered above.length))) := by
  rw [Layout, visibleLines_blank h h' hblank]
  exact Laid.renumber (lowered above.length) hlayout

end

/-! ### Reports -/

/-- The report that statements make. -/
def Report.ofStatements (statements : List Statement) : Report :=
  ⟨numbered 0 (statements.filterMap fun s => s.reading.draft?),
    statements.filterMap fun s => s.reading.discarded?⟩

/-- The number that a line gets, as a machine word. -/
def loweredWord (n : Nat) (line : UInt64) : UInt64 := if n < line.toNat then line + 1 else line

def Draft.lowered (n : Nat) (d : Draft) : Draft :=
  {d with opening := {d.opening with line := loweredWord n d.opening.line}}

def Rule.lowered (n : Nat) (r : Rule) : Rule := {r with line := loweredWord n r.line}

def Discarded.lowered (n : Nat) (block : Discarded) : Discarded :=
  {block with line := loweredWord n block.line}

/-- A report with the lines behind the first `n` one further down. -/
def Report.lowered (n : Nat) (r : Report) : Report :=
  ⟨r.rules.map (Rule.lowered n), r.discarded.map (Discarded.lowered n)⟩

theorem Statement.reading_renumber (n : Nat) (s : Statement) :
    (s.renumber (Policy.lowered n)).reading =
      if n < s.place then s.reading.shift 1 else s.reading := by
  have hid : (s.annotation.map fun a => a.renumber (Policy.lowered n)).map Annotation.id =
      s.annotation.map Annotation.id := by
    cases s.annotation <;> rfl
  have hopening : (s.renumber (Policy.lowered n)).opening =
      if n < s.place then s.opening.shift 1 else s.opening := by
    rw [Statement.opening, Statement.renumber, hid, Policy.lowered]
    split
    · rw [UInt64.ofNat_add]
      rfl
    · rfl
  have hending : (s.renumber (Policy.lowered n)).ending = s.ending := rfl
  rw [Statement.reading, hopening, hending, Statement.reading]
  split
  · cases s.ending with
    | delimited scope trailer => exact close_shift 1 s.opening scope _ trailer
    | interrupted => rfl
    | givenUp => rfl
  · rfl

/-- What the word for a line becomes, where lines can be counted in machine words. -/
theorem loweredWord_ofNat {n place : Nat} (h : place < UInt64.size) :
    loweredWord n (UInt64.ofNat place) =
      if n < place then UInt64.ofNat place + 1 else UInt64.ofNat place := by
  rw [loweredWord, UInt64.toNat_ofNat_of_lt' h]

theorem Statement.draft?_renumber {s : Statement} (h : s.place < UInt64.size) (n : Nat) :
    (s.renumber (Policy.lowered n)).reading.draft? = s.reading.draft?.map (Draft.lowered n) := by
  rw [Statement.reading_renumber]
  cases hd : s.reading with
  | discarded block => split <;> rfl
  | accepted opening principal action =>
    have hopening : opening = s.opening := Statement.draft_opening (by rw [hd]; rfl)
    have hline : loweredWord n opening.line =
        if n < s.place then opening.line + 1 else opening.line := by
      rw [hopening]
      exact loweredWord_ofNat h
    rw [Reading.draft?, Option.map_some, Draft.lowered, hline]
    split <;> rfl

theorem Statement.discarded?_renumber {s : Statement} (h : s.place < UInt64.size) (n : Nat) :
    (s.renumber (Policy.lowered n)).reading.discarded? =
      s.reading.discarded?.map (Discarded.lowered n) := by
  rw [Statement.reading_renumber]
  cases hd : s.reading with
  | accepted opening principal action => split <;> rfl
  | discarded block =>
    have hplace : block.line = UInt64.ofNat s.place := Statement.discarded_line (by rw [hd]; rfl)
    have hline : loweredWord n block.line =
        if n < s.place then block.line + 1 else block.line := by
      rw [hplace]
      exact loweredWord_ofNat h
    rw [Reading.discarded?, Option.map_some, Discarded.lowered, hline]
    split <;> rfl

theorem numbered_lowered (n place : Nat) (ds : List Draft) :
    numbered place (ds.map (Draft.lowered n)) = (numbered place ds).map (Rule.lowered n) := by
  induction ds generalizing place with
  | nil => rfl
  | cons d ds ih => exact congrArg (_ :: ·) (ih (place + 1))

/-- **The entries of statements that stand further down are the same, on lines further down.** -/
theorem Report.ofStatements_renumber {statements : List Statement}
    (h : ∀ s ∈ statements, s.place < UInt64.size) (n : Nat) :
    ofStatements (statements.map (Statement.renumber (Policy.lowered n))) =
      (ofStatements statements).lowered n := by
  have hdrafts : (statements.map (Statement.renumber (Policy.lowered n))).filterMap
      (fun s => s.reading.draft?) =
        (statements.filterMap fun s => s.reading.draft?).map (Draft.lowered n) := by
    rw [List.filterMap_map, List.map_filterMap]
    exact List.filterMap_congr fun s hs => Statement.draft?_renumber (h s hs) n
  have hdiscarded : (statements.map (Statement.renumber (Policy.lowered n))).filterMap
      (fun s => s.reading.discarded?) =
        (statements.filterMap fun s => s.reading.discarded?).map (Discarded.lowered n) := by
    rw [List.filterMap_map, List.map_filterMap]
    exact List.filterMap_congr fun s hs => Statement.discarded?_renumber (h s hs) n
  rw [ofStatements, hdrafts, hdiscarded, numbered_lowered]
  rfl

/-! ### Documents -/

/-- **Comments and blank lines are not seen**, wherever they stand. With a blank line put in, a
document has the statements that it had, and those that open below the line do so one line further
down; its report has the same entries with these lines. With a comment put behind a line, the
report is the same, as long as the scan for comments ends outside a literal on that line and no
slash stands at its end. -/
theorem comments_unseen :
    (∀ (document changed : String) (above below : List (List Char)) (raw : List Char),
      lines document.toList = above ++ below → lines changed.toList = above ++ raw :: below →
      allBlank (withoutComment raw) = true →
      ∃ statements, Layout document statements ∧
        Layout changed (statements.map (Statement.renumber (lowered above.length))) ∧
        report document = .ofStatements statements ∧
        report changed =
          .ofStatements (statements.map (Statement.renumber (lowered above.length))) ∧
        ((lines document.toList).length < UInt64.size →
          report changed = (report document).lowered above.length)) ∧
    ∀ (document changed : String) (above below : List (List Char)) (raw text : List Char),
      lines document.toList = above ++ raw :: below →
      lines changed.toList = above ++ (raw ++ '/' :: '/' :: text) :: below →
      EndsOutside raw → raw.getLast? ≠ some '/' → report changed = report document := by
  constructor
  · intro document changed above below raw h h' hblank
    obtain ⟨statements, hlayout, -⟩ := passages_layout document
    have hchanged := hlayout.blank h h' hblank
    refine ⟨statements, hlayout, hchanged, report_of_layout hlayout, report_of_layout hchanged, ?_⟩
    intro hsize
    have hplaces : ∀ s ∈ statements, s.place < UInt64.size :=
      fun s hs => Nat.lt_of_le_of_lt (hlayout.within hs).2 hsize
    calc report changed
        = .ofStatements (statements.map (Statement.renumber (lowered above.length))) :=
          report_of_layout hchanged
      _ = (Report.ofStatements statements).lowered above.length :=
          Report.ofStatements_renumber hplaces above.length
      _ = (report document).lowered above.length := by rw [report_of_layout hlayout]; rfl
  · intro document changed above below raw text h h' hout hslash
    have hpassages : passages changed = passages document := by
      rw [passages, passages, h, h', readLines_congr (withoutComment_comment hout hslash text)]
    rw [report_eq, report_eq, drafts, drafts, hpassages]

/-- A list that goes on on the second line, and a statement below. -/
def listing : String := "permit(principal, action in [\n  Bank::\"pay\"]);\nforbid(principal);"

/-- The same with a line in the list that is all comment. -/
def listingSpaced : String :=
  "permit(principal, action in [\n  // \"pay\n  Bank::\"pay\"]);\nforbid(principal);"

/-- The same with a comment where the list opens. -/
def listingNoted : String :=
  "permit(principal, action in [// ]);\n  Bank::\"pay\"]);\nforbid(principal);"

/-- In the open list neither a quote nor what would close the list is seen in a comment. -/
theorem comments_unseen_listing :
    let head := "permit(principal, action in [".toList
    let below := ["  Bank::\"pay\"]);".toList, "forbid(principal);".toList]
    let comment := "  // \"pay".toList
    lines listing.toList = head :: below ∧ lines listingSpaced.toList = head :: comment :: below ∧
      allBlank (withoutComment comment) = true ∧
      lines listingNoted.toList = (head ++ "// ]);".toList) :: below ∧
      EndsOutside head ∧ head.getLast? ≠ some '/' ∧
      report listing =
        ⟨[⟨"policy0", .permit, .unconstrained, .oneOf (.ofList ["pay"]), 1⟩,
          ⟨"policy1", .forbid, .unconstrained, .unconstrained, 3⟩], []⟩ ∧
      report listingSpaced =
        ⟨[⟨"policy0", .permit, .unconstrained, .oneOf (.ofList ["pay"]), 1⟩,
          ⟨"policy1", .forbid, .unconstrained, .unconstrained, 4⟩], []⟩ ∧
      report listingNoted = report listing := by
  intro head below comment
  have hlines : lines listing.toList = [head] ++ below := by decide +kernel
  have hspaced : lines listingSpaced.toList = [head] ++ comment :: below := by decide +kernel
  have hblank : allBlank (withoutComment comment) = true := by decide +kernel
  have hnoted :
      lines listingNoted.toList = [] ++ (head ++ '/' :: '/' :: " ]);".toList) :: below := by
    decide +kernel
  have hout : EndsOutside head := fun _ => by decide +kernel
  have hslash : head.getLast? ≠ some '/' := by decide +kernel
  have hreport : report listing =
      ⟨[⟨"policy0", .permit, .unconstrained, .oneOf (.ofList ["pay"]), 1⟩,
        ⟨"policy1", .forbid, .unconstrained, .unconstrained, 3⟩], []⟩ := by decide +kernel
  obtain ⟨hinsert, hnote⟩ := comments_unseen
  obtain ⟨-, -, -, -, -, hlowered⟩ := hinsert _ _ _ _ _ hlines hspaced hblank
  have hbelow := hlowered (by rw [hlines]; decide)
  rw [hreport] at hbelow
  exact ⟨hlines, hspaced, hblank, hnoted, hout, hslash, hreport, hbelow,
    hnote _ _ [] _ _ _ hlines hnoted hout hslash⟩

end Portcullis.Policy
