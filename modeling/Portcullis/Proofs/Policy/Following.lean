import Portcullis.Proofs.Policy.Recognition
import Portcullis.Policy.Document

/-! How a line is followed, one step at a time.

`Followed` says in one case for each step what a reader does with the text of a line:
open a statement, take an annotation, pass by text, go through a scope or stay in it, end
a statement or wait for its semicolon. It is what `Reader.follow` computes
(`followed_iff`), in the form that inductions over a line use.

A well-formed statement at the place where a reader is outside is passed as a whole
(`Followed.statement`). -/
namespace Portcullis.Policy
open Text

/-- Following a line from a reader leads to a reader and passes what is listed. -/
inductive Followed (line : UInt64) : Reader → List Char → Reader → List Passage → Prop where
  | opens {pending text effect rest last passages} :
      opener? (trimStart text) = some (effect, rest) →
      Followed line ⟨.scope ⟨effect, line, pending⟩ [] .none false, none⟩ rest last passages →
      Followed line ⟨.outside, pending⟩ text last (.opened ⟨effect, line, pending⟩ :: passages)
  | annotates {pending text name} :
      opener? (trimStart text) = none → annotation? (trimStart text) = some name →
      Followed line ⟨.outside, pending⟩ text ⟨.outside, some (String.ofList name)⟩ []
  | strays {pending text} :
      opener? (trimStart text) = none → annotation? (trimStart text) = none →
      allBlank text = false →
      Followed line ⟨.outside, pending⟩ text ⟨.outside, pending⟩ [.stray line]
  | rests {pending text} : allBlank text = true →
      Followed line ⟨.outside, pending⟩ text ⟨.outside, pending⟩ []
  | closes {opening body nesting broken pending text more rest last passages} :
      scanScope nesting text = .closed more rest →
      Followed line ⟨.trailer opening (body ++ more) broken [], pending⟩ rest last passages →
      Followed line ⟨.scope opening body nesting broken, pending⟩ text last passages
  | stays {opening body nesting broken pending text more left} :
      scanScope nesting text = .running more left →
      Followed line ⟨.scope opening body nesting broken, pending⟩ text
        ⟨.scope opening (body ++ more ++ ['\n']) {left with quoting := .outside}
          (broken || left.quoting ≠ .outside), pending⟩ []
  | ends {opening body broken sofar pending text before rest last passages} :
      atSemicolon? text = some (before, rest) →
      Followed line ⟨.outside, pending⟩ rest last passages →
      Followed line ⟨.trailer opening body broken sofar, pending⟩ text last
        (.ended (opening.close body broken (sofar ++ before)) :: passages)
  | waits {opening body broken sofar pending text} :
      atSemicolon? text = none →
      Followed line ⟨.trailer opening body broken sofar, pending⟩ text
        ⟨.trailer opening body broken (sofar ++ text ++ ['\n']), pending⟩ []

theorem atSemicolon?_append {before : List Char} (h : ';' ∉ before) (rest : List Char) :
    atSemicolon? (before ++ ';' :: rest) = some (before, rest) := by
  induction before with
  | nil => rfl
  | cons c before ih =>
    rw [List.mem_cons, not_or] at h
    rw [List.cons_append, atSemicolon?, if_neg (Ne.symm h.1), ih h.2]
    rfl

theorem opener?_nil : opener? [] = none := rfl

theorem annotation?_nil : annotation? [] = none := rfl

theorem Followed.follow_eq {line : UInt64} {r last : Reader} {text : List Char}
    {passages : List Passage} (h : Followed line r text last passages) :
    r.follow line text = (last, passages) := by
  induction h with
  | opens ho _ ih => rw [Reader.follow]; grind
  | annotates ho ha => rw [Reader.follow]; grind
  | strays ho ha hb => rw [Reader.follow]; grind
  | rests hb =>
    have hnil := trimStart_eq_nil_iff.mpr hb
    have ho : opener? (trimStart _) = none := (congrArg opener? hnil).trans opener?_nil
    have ha : annotation? (trimStart _) = none := (congrArg annotation? hnil).trans annotation?_nil
    rw [Reader.follow]
    grind
  | closes hs _ ih => rw [Reader.follow]; grind
  | stays hs => rw [Reader.follow]; grind
  | ends hs _ ih => rw [Reader.follow]; grind
  | waits hs => rw [Reader.follow]; grind

/-- Whatever the reader and the text, there is a way to follow it. -/
theorem Reader.followed (r : Reader) (line : UInt64) (text : List Char) :
    Followed line r text (r.follow line text).1 (r.follow line text).2 := by
  fun_induction Reader.follow r line text with
  | case1 r text hp effect rest ho opening last passages hf ih =>
    obtain ⟨phase, pending⟩ := r
    obtain rfl : phase = .outside := hp
    rw [hf] at ih
    exact .opens ho ih
  | case2 r text hp ho name ha =>
    obtain ⟨phase, pending⟩ := r
    obtain rfl : phase = .outside := hp
    exact .annotates ho ha
  | case3 r text hp ho ha =>
    obtain ⟨phase, pending⟩ := r
    obtain rfl : phase = .outside := hp
    cases hb : allBlank text
    · exact .strays ho ha hb
    · exact .rests hb
  | case4 r text opening body nesting broken hp more rest hs ih =>
    obtain ⟨phase, pending⟩ := r
    obtain rfl : phase = _ := hp
    exact .closes hs ih
  | case5 r text opening body nesting broken hp more left hs =>
    obtain ⟨phase, pending⟩ := r
    obtain rfl : phase = _ := hp
    exact .stays hs
  | case6 r text opening body broken sofar hp before rest hs last passages hf ih =>
    obtain ⟨phase, pending⟩ := r
    obtain rfl : phase = _ := hp
    rw [hf] at ih
    exact .ends hs ih
  | case7 r text opening body broken sofar hp hs =>
    obtain ⟨phase, pending⟩ := r
    obtain rfl : phase = _ := hp
    exact .waits hs

theorem followed_iff {line : UInt64} {r last : Reader} {text : List Char}
    {passages : List Passage} :
    Followed line r text last passages ↔ r.follow line text = (last, passages) := by
  constructor
  · exact Followed.follow_eq
  · intro h
    have := r.followed line text
    rwa [h] at this

/-! ### Whole statements -/

theorem argument?_word {gap : List Char} (hg : allBlank gap = true) (word rest : List Char) :
    argument? word (word ++ (gap ++ '(' :: rest)) = some rest := by
  rw [argument?, after?_append, Option.bind_some, trimStart_append_of_allBlank hg,
    trimStart_cons_of_not_blank (by decide)]
  rfl

theorem opener?_word {gap : List Char} (hg : allBlank gap = true) (effect : Effect)
    (rest : List Char) :
    opener? (effect.word ++ (gap ++ '(' :: rest)) = some (effect, rest) := by
  cases effect with
  | permit => rw [opener?, argument?_word hg]
  | forbid =>
    have hp : argument? Effect.permit.word (Effect.forbid.word ++ (gap ++ '(' :: rest)) = none := rfl
    rw [opener?, hp, argument?_word hg]
    rfl

/-- A statement in the notation opens, ends and is accepted where it stands. -/
theorem Followed.statement {line : UInt64} {effect : Effect} {clauses : List Clause}
    {text : List Char} {principal : PrincipalConstraint} {action : ActionConstraint}
    (h : StatementText effect clauses text) (hc : Constrain clauses principal action)
    (pending : Option String) (rest : List Char) {last : Reader} {ps : List Passage}
    (hrest : Followed line ⟨.outside, none⟩ rest last ps) :
    Followed line ⟨.outside, pending⟩ (text ++ rest) last
      (.opened ⟨effect, line, pending⟩ ::
        .ended (.accepted ⟨effect, line, pending⟩ principal action) :: ps) := by
  obtain ⟨hg, hs, ht⟩ := h
  rename_i gap scope trailer
  have hopen : opener? (trimStart (effect.word ++ (gap ++ '(' :: (scope ++ ')' :: (trailer ++ ';' ::
      rest))))) = some (effect, scope ++ ')' :: (trailer ++ ';' :: rest)) := by
    rw [(isWord_effect effect).trimStart_append, opener?_word hg]
  have hsemi : atSemicolon? (trailer ++ ';' :: rest) = some (trailer, rest) :=
    atSemicolon?_append (not_mem_of_allBlank ht (by decide)) rest
  have hscope : scanScope .none (scope ++ ')' :: (trailer ++ ';' :: rest)) =
      .closed scope (trailer ++ ';' :: rest) := scanScope_end (sealed_scope hs) _
  have htext : effect.word ++ (gap ++ '(' :: (scope ++ ')' :: (trailer ++ [';']))) ++ rest =
      effect.word ++ (gap ++ '(' :: (scope ++ ')' :: (trailer ++ ';' :: rest))) := by
    simp
  rw [htext, ← close_of_scope hs hc ht]
  exact .opens hopen (.closes hscope (.ends hsemi hrest))

end Portcullis.Policy
