import Portcullis.Proofs.Policy.Gathering

/-! Where a statement comes to its end in gathered text.

A reader looks at the start of each line for two things that end a statement before its time:
an opener, and a line `);` that finds something left open. In text that holds parentheses in
literals only (`FreeOf`) neither is found, so a statement goes on over its lines as if it were
read from the gathered text at once, up to its own parenthesis and semicolon
(`Stretch.of_gathered`). -/
namespace Portcullis.Policy
open Text

/-! ### Text that is free of a character -/

/-- A literal is closed by the quote behind it. -/
theorem Spells.through {value body : List Char} (h : Spells value body) (hline : '\n' ∉ body)
    {n : Nesting} (hn : n.quoting = .inside) :
    (n.through (body ++ ['"'])).quoting = .outside := by
  induction h generalizing n with
  | nil => simp [Nesting.step, hn]
  | plain hquote hslash _ ih =>
    rw [List.mem_cons, not_or] at hline
    exact ih hline.2 (by simp [Nesting.step, hn, hquote, hslash, Ne.symm hline.1])
  | escaped _ ih =>
    simp only [List.mem_cons, not_or] at hline
    exact ih hline.2.2 (by simp [Nesting.step, hn, Ne.symm hline.2.1])

/-- Text whose literals are closed on their lines, and that holds some characters in them only. -/
inductive FreeOf (barred : List Char) : List Char → Prop where
  | nil : FreeOf barred []
  | cons {c rest} : c ≠ '"' → c ∉ barred → FreeOf barred rest → FreeOf barred (c :: rest)
  | literal {value body rest} : Spells value body → '\n' ∉ body → FreeOf barred rest →
      FreeOf barred ('"' :: (body ++ '"' :: rest))

namespace FreeOf

variable {barred : List Char}

theorem append {a b : List Char} (ha : FreeOf barred a) (hb : FreeOf barred b) :
    FreeOf barred (a ++ b) := by
  induction ha with
  | nil => exact hb
  | cons hquote hc _ ih => exact .cons hquote hc ih
  | literal hs hline _ ih => simpa using literal hs hline ih

theorem of_forall {text : List Char} (h : ∀ c ∈ text, c ≠ '"' ∧ c ∉ barred) :
    FreeOf barred text := by
  induction text with
  | nil => exact .nil
  | cons c text ih =>
    obtain ⟨hquote, hc⟩ := h c (List.mem_cons_self ..)
    exact .cons hquote hc (ih fun d hd => h d (List.mem_cons_of_mem c hd))

theorem weaken {text : List Char} (h : FreeOf barred text) {fewer : List Char}
    (hfewer : fewer ⊆ barred) : FreeOf fewer text := by
  induction h with
  | nil => exact .nil
  | cons hquote hc _ ih => exact .cons hquote (fun hmem => hc (hfewer hmem)) ih
  | literal hs hline _ ih => exact .literal hs hline ih

/-- A front without quotes holds none of the characters, and what follows it is free of them. -/
theorem behind {front text : List Char} (h : FreeOf barred (front ++ text))
    (hfront : '"' ∉ front) : (∀ c ∈ front, c ∉ barred) ∧ FreeOf barred text := by
  induction front with
  | nil => exact ⟨fun _ hc => (by cases hc), h⟩
  | cons c front ih =>
    rw [List.mem_cons, not_or] at hfront
    generalize hall : c :: front ++ text = whole at h
    cases h with
    | nil => cases hall
    | cons hquote hc hrest =>
      obtain ⟨rfl, rfl⟩ := List.cons.inj hall
      obtain ⟨hfree, htext⟩ := ih hrest hfront.2
      exact ⟨List.forall_mem_cons.mpr ⟨hc, hfree⟩, htext⟩
    | literal => exact absurd (List.cons.inj hall).1.symm hfront.1

/-- What follows a line break is free of the same characters. -/
theorem past_newline {front text : List Char} (h : FreeOf barred (front ++ '\n' :: text)) :
    FreeOf barred text := by
  generalize hall : front ++ '\n' :: text = whole at h
  induction h generalizing front with
  | nil => simp at hall
  | @cons c rest hquote hc hrest ih =>
    cases front with
    | nil =>
      obtain ⟨-, rfl⟩ := List.cons.inj hall
      exact hrest
    | cons d front => exact ih (List.cons.inj hall).2
  | @literal value body rest hs hline _ ih =>
    cases front with
    | nil => exact absurd (List.cons.inj hall).1 (by decide)
    | cons d front =>
      have hinner := (List.cons.inj hall).2
      -- The line break stands behind the literal.
      rcases List.append_eq_append_iff.mp hinner with ⟨tail, hbody, htail⟩ | ⟨tail, hfront, htail⟩
      · cases tail with
        | nil => exact absurd (List.cons.inj htail).1 (by decide)
        | cons e tail =>
          obtain ⟨rfl, -⟩ := List.cons.inj htail
          exact absurd (by rw [hbody]; simp) hline
      · cases tail with
        | nil => exact absurd (List.cons.inj htail).1 (by decide)
        | cons e tail => exact ih (List.cons.inj htail).2.symm

/-- No literal is open behind such a text, or at a line break of it. -/
theorem through {text : List Char} (h : FreeOf barred text) {n : Nesting}
    (hn : n.quoting = .outside) :
    (n.through text).quoting = .outside ∧ n.breaks text = false := by
  induction h generalizing n with
  | nil => exact ⟨hn, rfl⟩
  | @cons c rest hquote _ _ ih =>
    have hstep : (n.step c).quoting = .outside := by grind [Nesting.step, Nesting.after]
    obtain ⟨hthrough, hbreaks⟩ := ih hstep
    exact ⟨hthrough, Nesting.breaks_cons.mpr ⟨fun _ => hn, hbreaks⟩⟩
  | @literal value body rest hs hline _ ih =>
    have hinside : (n.step '"').quoting = .inside := by simp [Nesting.step, hn, Nesting.after]
    obtain ⟨hthrough, hbreaks⟩ := ih (hs.through hline hinside)
    have htext : '"' :: (body ++ '"' :: rest) = '"' :: (body ++ ['"'] ++ rest) := by simp
    have hbody : '\n' ∉ body ++ ['"'] := by simp [hline]
    rw [htext]
    refine ⟨by rw [Nesting.through_cons, Nesting.through_append, hthrough], ?_⟩
    refine Nesting.breaks_cons.mpr ⟨fun _ => hn, ?_⟩
    rw [Nesting.breaks_append, Nesting.breaks_of_notMem hbody, Bool.false_or, hbreaks]

/-- Text that is free of opening parentheses opens no statement. -/
theorem opener?_eq_none {text : List Char} (h : FreeOf barred text) (hbarred : '(' ∈ barred) :
    opener? (trimStart text) = none := by
  cases ho : opener? (trimStart text) with
  | none => rfl
  | some found =>
    obtain ⟨effect, rest⟩ := found
    obtain ⟨lead, gap, hl, hg, rfl⟩ := opens_iff.mp ho
    have hquote : isBlank '"' = false := by decide
    have hword : '"' ∉ effect.word := by cases effect <;> decide
    have hfront : '"' ∉ lead ++ (effect.word ++ (gap ++ ['('])) := by
      simp [not_mem_of_allBlank hl hquote, not_mem_of_allBlank hg hquote, hword]
    have htext : lead ++ (effect.word ++ (gap ++ '(' :: rest)) =
        lead ++ (effect.word ++ (gap ++ ['('])) ++ rest := by simp
    rw [htext] at h
    exact absurd hbarred ((h.behind hfront).1 '(' (by simp))

end FreeOf

/-! ### A statement in gathered text -/

theorem Nesting.through_blank {n : Nesting} (hn : n.quoting = .outside) {gap : List Char}
    (hg : allBlank gap = true) : n.through gap = n := by
  induction gap with
  | nil => rfl
  | cons c gap ih =>
    rw [allBlank_cons, Bool.and_eq_true] at hg
    have hstep : n.step c = n := by
      by_cases hline : c = '\n'
      · rw [hline, Nesting.step_newline hn]
      · rw [Nesting.step, if_neg hline, hn]
        exact Nesting.after_plain (isPlain_of_isBlank hg.1) n
    rw [Nesting.through_cons, hstep, ih hg.2]

/-- A front of a statement that stops short of its semicolon is unfinished. -/
theorem Unfinished.of_front {scope trailer front more : List Char} (hw : Whole scope)
    (hsemi : ';' ∉ trailer) (h : front ++ more = scope ++ ')' :: trailer) : Unfinished front := by
  rcases List.append_eq_append_iff.mp h with ⟨tail, hscope, -⟩ | ⟨tail, hfront, htail⟩
  · have hgoes := hw.goesOn
    rw [hscope] at hgoes
    exact .scope (Nesting.goesOn_append.mp hgoes).1
  · rw [hfront]
    cases tail with
    | nil =>
      rw [List.append_nil]
      exact .scope hw.goesOn
    | cons c tail =>
      obtain ⟨rfl, rfl⟩ := List.cons.inj htail
      exact .trailer hw fun hmem => hsemi (List.mem_append_left more hmem)

/-- Where a line starts with the parenthesis that closes the scope, nothing is left open in front
of it. -/
theorem not_unbalanced {scope sofar front back after : List Char} (hw : Whole scope)
    (hunbroken : Nesting.none.breaks scope = false) (hfree : FreeOf [')'] scope)
    (hfront : allBlank front = true)
    (h : sofar ++ ['\n'] ++ (front ++ ')' :: back) = scope ++ ')' :: after) :
    ¬Unbalanced (sofar ++ ['\n']) := by
  intro hub
  have hparen : ')' ∉ front := not_mem_of_allBlank hfront (by decide)
  have hgoes : Nesting.none.GoesOn (sofar ++ ['\n'] ++ front) :=
    Nesting.goesOn_append.mpr ⟨hub.goesOn, Nesting.goesOn_of_notMem hparen _⟩
  have hends : sofar ++ ['\n'] ++ front ≠ scope := by
    rintro rfl
    rw [Nesting.breaks_append, Bool.or_eq_false_iff] at hunbroken
    have hquoting : (Nesting.none.through (sofar ++ ['\n'])).quoting = .outside := by
      rw [Nesting.through_newline]
    have hclosed := hw.closed
    rw [Nesting.through_append, Nesting.through_blank hquoting hfront] at hclosed
    rcases hub.left with hbreaks | hopen
    · rw [hunbroken.1] at hbreaks
      cases hbreaks
    · exact hopen hclosed
  rw [← List.append_assoc] at h
  rcases List.append_eq_append_iff.mp h with ⟨tail, hscope, htail⟩ | ⟨tail, hbehind, htail⟩
  · cases tail with
    | nil => exact hends (by rw [hscope, List.append_nil])
    | cons c tail =>
      -- The parenthesis stands in the scope, outside literals.
      obtain ⟨rfl, -⟩ := List.cons.inj htail
      have hsplit : scope = sofar ++ '\n' :: (front ++ [')'] ++ tail) := by
        rw [hscope]
        simp
      rw [hsplit] at hfree
      have hquote : '"' ∉ front ++ [')'] := by
        simp [not_mem_of_allBlank hfront (by decide : isBlank '"' = false)]
      exact (hfree.past_newline.behind hquote).1 ')' (by simp) (by simp)
  · cases tail with
    | nil => exact hends (by rw [hbehind, List.append_nil])
    | cons c tail =>
      obtain ⟨rfl, -⟩ := List.cons.inj htail
      rw [hbehind] at hgoes
      exact hw.not_goesOn tail hgoes

/-- Where a line of a delimited statement ends, the statement is delimited or unfinished. -/
theorem delimited_or_unfinished {scope trailer rest text below : List Char} (hw : Whole scope)
    (hsemi : ';' ∉ trailer)
    (h : text ++ '\n' :: below = scope ++ ')' :: (trailer ++ ';' :: rest)) :
    (∃ back, text = scope ++ ')' :: (trailer ++ ';' :: back) ∧ back ++ '\n' :: below = rest) ∨
      Unfinished (text ++ ['\n']) ∧ below ≠ [] := by
  have hsplit : text ++ '\n' :: below = (scope ++ ')' :: trailer) ++ ';' :: rest := by
    rw [h]
    simp
  rcases List.append_eq_append_iff.mp hsplit with ⟨tail, hfront, htail⟩ | ⟨tail, htext, htail⟩
  · cases tail with
    | nil => exact absurd (List.cons.inj htail).1 (by decide)
    | cons c tail =>
      obtain ⟨rfl, rfl⟩ := List.cons.inj htail
      refine .inr ⟨?_, by simp⟩
      have hmore : text ++ ['\n'] ++ tail = scope ++ ')' :: trailer := by
        rw [hfront]
        simp
      exact .of_front hw hsemi hmore
  · cases tail with
    | nil => exact absurd (List.cons.inj htail).1 (by decide)
    | cons c tail =>
      obtain ⟨rfl, rfl⟩ := List.cons.inj htail
      exact .inl ⟨tail, by rw [htext]; simp, rfl⟩

/-- **A statement comes to its end as it does in the gathered text**, and what is left is what
stands behind its semicolon there. -/
theorem Stretch.of_gathered {scope trailer rest : List Char} (hw : Whole scope)
    (hunbroken : Nesting.none.breaks scope = false) (hfree : FreeOf [')'] scope)
    (hsemi : ';' ∉ trailer)
    (hopens : FreeOf ['('] (scope ++ ')' :: (trailer ++ ';' :: rest)))
    {sofar : List Char} {cur : Line} {later : List Line}
    (h : sofar ++ gathered (cur :: later) = scope ++ ')' :: (trailer ++ ';' :: rest)) :
    ∃ last below, Stretch sofar cur later (.delimited scope trailer) last below ∧
      gathered (last :: below) = rest := by
  induction later generalizing sofar cur with
  | nil =>
    rw [gathered_cons, ← List.append_assoc] at h
    rcases delimited_or_unfinished hw hsemi h with ⟨back, htext, hback⟩ | ⟨-, hbelow⟩
    · exact ⟨_, _, .delimited htext hw hsemi, (gathered_cons ..).trans hback⟩
    · exact absurd rfl hbelow
  | cons next later ih =>
    rw [gathered_cons, ← List.append_assoc] at h
    rcases delimited_or_unfinished hw hsemi h with ⟨back, htext, hback⟩ | ⟨hunfinished, -⟩
    · exact ⟨_, _, .delimited htext hw hsemi, (gathered_cons ..).trans hback⟩
    · have hnext : sofar ++ cur.text ++ ['\n'] ++ gathered (next :: later) =
          scope ++ ')' :: (trailer ++ ';' :: rest) := by
        rw [← h]
        simp
      have hnone : opener? (trimStart next.text) = none := by
        rw [← h, gathered_cons] at hopens
        have hbelow := hopens.past_newline.opener?_eq_none (by simp)
        cases ho : opener? (trimStart next.text) with
        | none => rfl
        | some found =>
          rw [opens_append ho] at hbelow
          cases hbelow
      have hcloser : ¬(trim next.text = [')', ';'] ∧ Unbalanced (sofar ++ cur.text ++ ['\n'])) := by
        rintro ⟨htrim, hub⟩
        obtain ⟨front, back, hfront, -, htext⟩ := exists_of_trim_closer htrim
        have hparen : sofar ++ cur.text ++ ['\n'] ++
            (front ++ ')' :: (';' :: back ++ '\n' :: gathered later)) =
              scope ++ ')' :: (trailer ++ ';' :: rest) := by
          rw [← hnext, gathered_cons, htext]
          simp
        exact not_unbalanced hw hunbroken hfree hfront hparen hub
      obtain ⟨last, below, hstretch, hrest⟩ := ih hnext
      exact ⟨last, below, .more hunfinished hnone hcloser hstretch, hrest⟩

end Portcullis.Policy
