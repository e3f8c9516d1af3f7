import Portcullis.Proofs.Policy.Reading

/-! Two readers of the same lines that differ in what the lines do not decide.

A reader that counts its lines from a later number passes the same things at later lines
(`readLines_shift`). A reader that has a name ready gives it to the first statement that
opens, unless an annotation gives that one a name of its own, and passes the same things
otherwise (`readLines_lend`). Both are shown for a step of following first, then for a
line, then for all lines. -/
namespace Portcullis.Policy
open Text

/-- Whether a statement is accepted is not a matter of its opening. -/
theorem close_map {f : Opening → Opening} {g : Reading → Reading}
    (ha : ∀ o principal action, g (.accepted o principal action) = .accepted (f o) principal action)
    (hd : ∀ (o : Opening) (reason : DiscardReason),
      g (.discarded ⟨o.line, reason⟩) = .discarded ⟨(f o).line, reason⟩)
    (o : Opening) (body : List Char) (broken : Bool) (trailer : List Char) :
    (f o).close body broken trailer = g (o.close body broken trailer) := by
  unfold Opening.close
  split
  · rw [hd]
  · split
    · rw [hd]
    · split
      · rw [hd]
      · rw [hd]
      · rw [ha]

/-! ### Later lines -/

def Opening.shift (n : UInt64) (o : Opening) : Opening := {o with line := o.line + n}

def Discarded.shift (n : UInt64) (block : Discarded) : Discarded :=
  {block with line := block.line + n}

def Draft.shift (n : UInt64) (d : Draft) : Draft := {d with opening := d.opening.shift n}

def Reading.shift (n : UInt64) : Reading → Reading
  | .accepted o principal action => .accepted (o.shift n) principal action
  | .discarded block => .discarded (block.shift n)

def Passage.shift (n : UInt64) : Passage → Passage
  | .opened o => .opened (o.shift n)
  | .ended reading => .ended (reading.shift n)
  | .stray line => .stray (line + n)

def Phase.shift (n : UInt64) : Phase → Phase
  | .outside => .outside
  | .scope o body nesting broken => .scope (o.shift n) body nesting broken
  | .trailer o body broken text => .trailer (o.shift n) body broken text

def Reader.shift (n : UInt64) (r : Reader) : Reader := {r with phase := r.phase.shift n}

theorem close_shift (n : UInt64) (o : Opening) (body : List Char) (broken : Bool)
    (trailer : List Char) :
    (o.shift n).close body broken trailer = (o.close body broken trailer).shift n :=
  close_map (fun _ _ _ => rfl) (fun _ _ => rfl) o body broken trailer

theorem isUnbalanced_shift (n : UInt64) (p : Phase) : (p.shift n).isUnbalanced = p.isUnbalanced := by
  cases p <;> rfl

theorem abandon_shift (n : UInt64) (r : Reader) (reason : DiscardReason) :
    (r.shift n).abandon reason =
      ((r.abandon reason).1.shift n, (r.abandon reason).2.map (Passage.shift n)) := by
  obtain ⟨phase, pending⟩ := r
  cases phase <;> rfl

theorem Followed.shift {line : UInt64} {r last : Reader} {text : List Char} {ps : List Passage}
    (h : Followed line r text last ps) (n : UInt64) :
    Followed (line + n) (r.shift n) text (last.shift n) (ps.map (Passage.shift n)) := by
  induction h with
  | opens ho _ ih => exact .opens ho ih
  | annotates ho ha => exact .annotates ho ha
  | strays ho ha hb => exact .strays ho ha hb
  | rests hb => exact .rests hb
  | closes hs _ ih => exact .closes hs ih
  | stays hs => exact .stays hs
  | ends hs _ ih =>
    rw [List.map_cons, Passage.shift, ← close_shift]
    exact .ends hs ih
  | waits hs => exact .waits hs

theorem follow_shift (n : UInt64) (r : Reader) (line : UInt64) (text : List Char) :
    (r.shift n).follow (line + n) text =
      ((r.follow line text).1.shift n, (r.follow line text).2.map (Passage.shift n)) :=
  ((r.followed line text).shift n).follow_eq

theorem readLine_shift (n : UInt64) (r : Reader) (line : UInt64) (raw : List Char) :
    (r.shift n).readLine (line + n) raw =
      ((r.readLine line raw).1.shift n, (r.readLine line raw).2.map (Passage.shift n)) := by
  by_cases hb : allBlank (withoutComment raw) = true
  · rw [readLine_blank hb, readLine_blank hb]
    rfl
  by_cases ho : (opener? (trimStart (withoutComment raw))).isSome = true
  · rw [readLine_opener ho, readLine_opener ho, abandon_shift, follow_shift, List.map_append]
  by_cases hc : trim (withoutComment raw) = [')', ';'] ∧ r.phase.isUnbalanced = true
  · rw [readLine_closer hb ho hc, readLine_closer hb ho ⟨hc.1, (isUnbalanced_shift n _).trans hc.2⟩,
      abandon_shift]
  · have hs : ¬(trim (withoutComment raw) = [')', ';'] ∧
        (r.shift n).phase.isUnbalanced = true) :=
      fun hs => hc ⟨hs.1, (isUnbalanced_shift n _).symm.trans hs.2⟩
    rw [readLine_inner hb ho hc, readLine_inner hb ho hs, follow_shift]

/-- **Lines that stand further down are read the same.** -/
theorem readLines_shift (n : UInt64) (r : Reader) (line : UInt64) (texts : List (List Char)) :
    (r.shift n).readLines (line + n) texts =
      (r.readLines line texts).map (Passage.shift n) := by
  induction texts generalizing r line with
  | nil =>
    rw [Reader.readLines, abandon_shift]
    rfl
  | cons text rest ih =>
    have hline : line + n + 1 = line + 1 + n := by
      rw [UInt64.add_assoc, UInt64.add_comm n, ← UInt64.add_assoc]
    rw [readLines_cons, readLines_cons, readLine_shift, hline, ih, List.map_append]

/-! ### A name that is ready -/

def Opening.lend (name : Option String) (o : Opening) : Opening := {o with id := o.id.or name}

def Reading.lend (name : Option String) : Reading → Reading
  | .accepted o principal action => .accepted (o.lend name) principal action
  | .discarded block => .discarded block

/-- Give a name to the first statement among what is passed, unless it has one. -/
def lend (name : Option String) : List Passage → List Passage
  | [] => []
  | .opened o :: rest => .opened (o.lend name) :: lend name rest
  | .ended reading :: rest => .ended (reading.lend name) :: rest
  | .stray line :: rest => .stray line :: lend name rest

/-- The name that is left to lend once something is passed: none if a statement ended. -/
def remaining (name : Option String) : List Passage → Option String
  | [] => name
  | .ended _ :: _ => none
  | .opened _ :: rest => remaining name rest
  | .stray _ :: rest => remaining name rest

/-- Outside a statement the name is kept for the next one, else the open one takes it. -/
def Reader.lend (name : Option String) (r : Reader) : Reader :=
  match r.phase with
  | .outside => {r with pending := r.pending.or name}
  | .scope o body nesting broken => {r with phase := .scope (o.lend name) body nesting broken}
  | .trailer o body broken text => {r with phase := .trailer (o.lend name) body broken text}

@[simp] theorem Reader.lend_none (r : Reader) : r.lend none = r := by
  obtain ⟨phase, pending⟩ := r
  cases phase <;> simp [Reader.lend, Opening.lend]

@[simp] theorem remaining_none (ps : List Passage) : remaining none ps = none := by
  fun_induction remaining none ps with
  | case1 => rfl
  | case2 => rfl
  | case3 _ rest ih => exact ih
  | case4 _ rest ih => exact ih

@[simp] theorem lend_none (ps : List Passage) : lend none ps = ps := by
  fun_induction lend none ps with
  | case1 => rfl
  | case2 o rest ih => rw [ih, Opening.lend, Option.or_none]
  | case3 reading rest => cases reading <;> simp [Reading.lend, Opening.lend]
  | case4 line rest ih => rw [ih]

theorem lend_append (name : Option String) (before after : List Passage) :
    lend name (before ++ after) = lend name before ++ lend (remaining name before) after := by
  fun_induction lend name before with
  | case1 => rfl
  | case2 o rest ih => exact congrArg _ ih
  | case3 reading rest => simp [lend, remaining]
  | case4 line rest ih => exact congrArg _ ih

theorem remaining_append (name : Option String) (before after : List Passage) :
    remaining name (before ++ after) = remaining (remaining name before) after := by
  fun_induction remaining name before with
  | case1 => rfl
  | case2 => exact (remaining_none after).symm
  | case3 _ rest ih => exact ih
  | case4 _ rest ih => exact ih

theorem close_lend (name : Option String) (o : Opening) (body : List Char) (broken : Bool)
    (trailer : List Char) :
    (o.lend name).close body broken trailer = (o.close body broken trailer).lend name :=
  close_map (fun _ _ _ => rfl) (fun _ _ => rfl) o body broken trailer

theorem isUnbalanced_lend (name : Option String) (r : Reader) :
    (r.lend name).phase.isUnbalanced = r.phase.isUnbalanced := by
  obtain ⟨phase, pending⟩ := r
  cases phase <;> rfl

theorem abandon_lend (name : Option String) (r : Reader) (reason : DiscardReason) :
    (r.lend name).abandon reason =
      ((r.abandon reason).1.lend (remaining name (r.abandon reason).2),
        lend name (r.abandon reason).2) := by
  obtain ⟨phase, pending⟩ := r
  cases phase with
  | outside => rfl
  | scope o body nesting broken =>
    show _ = (Reader.lend none ⟨.outside, pending⟩, _)
    rw [Reader.lend_none]
    rfl
  | trailer o body broken text =>
    show _ = (Reader.lend none ⟨.outside, pending⟩, _)
    rw [Reader.lend_none]
    rfl

/-- A statement that ends on the line takes the name with it; else the last reader has it. -/
theorem Followed.lend {line : UInt64} {r last : Reader} {text : List Char} {ps : List Passage}
    (h : Followed line r text last ps) (name : Option String) :
    Followed line (r.lend name) text (last.lend (remaining name ps)) (Policy.lend name ps) := by
  induction h with
  | opens ho _ ih => exact .opens ho ih
  | annotates ho ha => exact .annotates ho ha
  | strays ho ha hb => exact .strays ho ha hb
  | rests hb => exact .rests hb
  | closes hs _ ih => exact .closes hs ih
  | stays hs => exact .stays hs
  | ends hs hf _ =>
    rw [Policy.lend, ← close_lend, remaining, Reader.lend_none]
    exact .ends hs hf
  | waits hs => exact .waits hs

theorem follow_lend (name : Option String) (r : Reader) (line : UInt64) (text : List Char) :
    (r.lend name).follow line text =
      ((r.follow line text).1.lend (remaining name (r.follow line text).2),
        lend name (r.follow line text).2) :=
  ((r.followed line text).lend name).follow_eq

theorem readLine_lend (name : Option String) (r : Reader) (line : UInt64) (raw : List Char) :
    (r.lend name).readLine line raw =
      ((r.readLine line raw).1.lend (remaining name (r.readLine line raw).2),
        lend name (r.readLine line raw).2) := by
  by_cases hb : allBlank (withoutComment raw) = true
  · rw [readLine_blank hb, readLine_blank hb]
    rfl
  by_cases ho : (opener? (trimStart (withoutComment raw))).isSome = true
  · rw [readLine_opener ho, readLine_opener ho, abandon_lend, follow_lend, lend_append,
      remaining_append]
  by_cases hc : trim (withoutComment raw) = [')', ';'] ∧ r.phase.isUnbalanced = true
  · rw [readLine_closer hb ho hc,
      readLine_closer hb ho ⟨hc.1, (isUnbalanced_lend name r).trans hc.2⟩, abandon_lend]
  · have hs : ¬(trim (withoutComment raw) = [')', ';'] ∧
        (r.lend name).phase.isUnbalanced = true) :=
      fun hs => hc ⟨hs.1, (isUnbalanced_lend name r).symm.trans hs.2⟩
    rw [readLine_inner hb ho hc, readLine_inner hb ho hs, follow_lend]

/-- **A name that is ready when lines are read goes to the first statement in them.** -/
theorem readLines_lend (name : Option String) (r : Reader) (line : UInt64)
    (texts : List (List Char)) :
    (r.lend name).readLines line texts = lend name (r.readLines line texts) := by
  induction texts generalizing name r line with
  | nil => rw [Reader.readLines, abandon_lend, Reader.readLines]
  | cons text rest ih => rw [readLines_cons, readLines_cons, readLine_lend, ih, lend_append]

end Portcullis.Policy
