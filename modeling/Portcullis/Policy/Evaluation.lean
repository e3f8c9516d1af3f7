import Portcullis.Policy.Rule
/-! Deciding a request against rules in document order.

Nothing is permitted unless a rule permits it. A permit that applies opens the
gate and the scan goes on; a forbid that applies shuts it and ends the scan. The
rules heard are those that apply up to that point. -/
namespace Portcullis.Policy

/-- A decision with the rules behind it. -/
structure Evaluation where
  decision : Decision
  /-- The forbid that ended the scan, or else the first permit heard. -/
  determiningRule : Option String
  /-- The names of the rules heard, in order. -/
  matched : List String
  deriving DecidableEq, Repr

/-- The decision when no rule is heard. -/
def Evaluation.denial : Evaluation := ⟨.deny, none, []⟩

instance : Inhabited Evaluation := ⟨.denial⟩

/-- Go on from what the rules heard so far decided. -/
def Evaluation.scan (sofar : Evaluation) (q : Request) : List Rule → Evaluation
  | [] => sofar
  | r :: rest =>
    if r.applies q then
      match r.effect with
      | .permit =>
        scan ⟨.permit, sofar.determiningRule.or (some r.id), sofar.matched ++ [r.id]⟩ q rest
      | .forbid => ⟨.deny, some r.id, sofar.matched ++ [r.id]⟩
    else scan sofar q rest

/-- Decide a request and say why. -/
def explain (rules : List Rule) (q : Request) : Evaluation := Evaluation.denial.scan q rules

def evaluate (rules : List Rule) (q : Request) : Decision := (explain rules q).decision

/-- Rules in document order, as a value of their own. -/
structure RuleSet where
  rules : List Rule
  deriving DecidableEq, Repr

/-- The rules that apply, up to the first forbid among them. -/
def heard (rules : List Rule) (q : Request) : List Rule :=
  match rules with
  | [] => []
  | r :: rest =>
    if r.applies q then
      match r.effect with
      | .permit => r :: heard rest q
      | .forbid => [r]
    else heard rest q

theorem scan_matched (sofar : Evaluation) (q : Request) (rules : List Rule) :
    (sofar.scan q rules).matched = sofar.matched ++ (heard rules q).map Rule.id := by
  induction rules generalizing sofar with
  | nil => simp [Evaluation.scan, heard]
  | cons r rest ih =>
    simp only [Evaluation.scan, heard]
    split
    · cases r.effect <;> simp [ih]
    · exact ih sofar

/-- The names an explanation lists are those of the rules heard. -/
theorem explain_matched (rules : List Rule) (q : Request) :
    (explain rules q).matched = (heard rules q).map Rule.id := by
  simp [explain, scan_matched, Evaluation.denial]

end Portcullis.Policy
