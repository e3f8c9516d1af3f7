import Portcullis.Codec.Agent
import Portcullis.Failure
import Portcullis.Json.Reader
import Portcullis.Json.Schema
import Portcullis.Text.Affix
import Portcullis.Text.Blank
/-! Replies of a generator.

A reply is a JSON object with a policy, a rationale and a risk tier, perhaps inside a
code fence. It is checked against a schema before a policy is read from it, and everything
that the check finds wrong with it is reported at once. -/
namespace Portcullis.Reply
open Json Text

/-! ### Fences -/

/-- What opens and closes a fenced block. -/
def fence : List Char := List.replicate 3 '\x60'

/-- What follows the first line. -/
def afterLine? : List Char → Option (List Char)
  | [] => none
  | c :: rest => if c = '\n' then some rest else afterLine? rest

/-- Text without the fence around it, trimmed. The line that opens a fence may say more;
the fence that closes it may be missing. -/
def withoutFence (text : List Char) : List Char :=
  match after? fence (trim text) with
  | none => trim text
  | some rest =>
    match afterLine? rest with
    | none => []
    | some inner => trim ((before? fence (trimEnd inner)).getD inner)

/-- The body of a reply without the fence around it. -/
def unfenced (body : String) : String := String.ofList (withoutFence body.toList)

/-! ### The schema -/

/-- The words for the risk tiers. -/
def tierWords : List String := RiskTier.all.map RiskTier.word

/-- What the schema asks of each member. -/
def parts : List (String × Json) :=
  [("policy", ofFields [("minLength", .number (.ofNat 1)), ("type", ofString "string")]),
    ("rationale", ofFields [("type", ofString "string")]),
    ("riskTier", ofFields [("enum", .array (tierWords.map ofString))])]

/-- The JSON Schema of replies. Like every object that is data it keeps its members in the order
of their names. -/
def schema : Json :=
  ofFields [("properties", ofFields parts),
    ("required", .array (["policy", "rationale", "riskTier"].map ofString)),
    ("type", ofString "object")]

/-- The schema of replies as a validator. -/
def validator (C : Compiler) : Except Failure Validator :=
  (C.compile schema).mapError fun e => .configuration ("invalid generator response schema: " ++ e)

/-! ### Reading -/

/-- What the JSON library says of what it cannot read, as far as anybody is told. -/
structure Wording where
  /-- Of a text that is no JSON. -/
  syntaxError? : String → Option String
  /-- Of a value that is no policy. -/
  shapeError? : Json → Option String

/-- Nobody is told anything. -/
def Wording.silent : Wording := ⟨fun _ => none, fun _ => none⟩

/-- A reason, and what the JSON library says of it. -/
def because (reason : String) : Option String → String
  | some e => reason ++ ": " ++ e
  | none => reason

/-- A complaint with the place of what it is about. -/
def complaintLine (c : Complaint) : String := c.text ++ " at '" ++ c.violation.place ++ "'"

/-- The value a body holds, within the limits of data. -/
def value? (body : String) : Option Json :=
  (ofChars? (withoutFence body.toList)).bind fun v => if v.isData 0 then some v else none

/-- The policy that the body of a reply holds. -/
def decode (V : Validator) (words : Wording) (body : String) : Except Failure GeneratedPolicy :=
  match value? body with
  | none => .error (.generationFailed
      (because "generator response is not JSON" (words.syntaxError? (unfenced body))))
  | some v =>
    let payload := v.canonical
    match V.complaints payload with
    | [] =>
      match GeneratedPolicy.ofJson? payload with
      | some policy => .ok policy
      | none => .error (.generationFailed
          (because "generator response could not be decoded" (words.shapeError? payload)))
    | complaints => .error (.generationFailed ("generator response violates schema: " ++
        String.intercalate "; " (complaints.map complaintLine)))

/-- Read a reply with the compiler at hand. -/
def read (body : String) : Except Failure GeneratedPolicy :=
  (validator .standard).bind fun V => decode V .silent body

end Portcullis.Reply
