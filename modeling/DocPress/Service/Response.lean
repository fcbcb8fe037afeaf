import DocPress.Service.Download
import DocPress.Value.Reader

/-!
What the service answers: facts, documents, or why there is none.
-/

namespace DocPress.Service

inductive Refusal where
  | unknownPath
  | wrongMethod
  | missingField (name : String)
  | unknownStyle (name : String)
  | badSettings (fault : Value.Fault)
  | undecodable (encoding : String)
  | failed
  deriving DecidableEq, Repr

namespace Refusal

def status : Refusal → Nat
  | unknownPath => 404
  | wrongMethod => 405
  | missingField _ | unknownStyle _ | badSettings _ | undecodable _ => 422
  | failed => 500

def detail : Refusal → Value
  | unknownPath => .string "Not Found"
  | wrongMethod => .string "Method Not Allowed"
  | missingField name => .array [.object [("type",.string "missing"),
      ("loc",.array [.string "body",.string name]),("msg",.string "Field required"),
      ("input",.null)]]
  | unknownStyle name =>
    .string <| s!"Unknown style preset {Text.quoted name}. Choose from: {Preset.choices}"
  | badSettings fault => .string s!"Invalid style config JSON: {fault.message}"
  | undecodable encoding => .string s!"Cannot decode upload as {encoding}"
  | failed => .string "Failed to generate document."

end Refusal

inductive Response where
  | facts (body : Value)
  | document (name : String) (package : Package)
  | refusal (reason : Refusal)

namespace Response

def status : Response → Nat
  | facts _ | document _ _ => 200
  | refusal reason => reason.status

def documentType : String :=
  "application/vnd.openxmlformats-officedocument.wordprocessingml.document"

def mediaType : Response → String
  | document _ _ => documentType
  | _ => "application/json"

def disposition? : Response → Option String
  | document name _ => some (contentDisposition name)
  | _ => none

def json? : Response → Option Value
  | facts body => some body
  | document _ _ => none
  | refusal reason => some (.object [("detail",reason.detail)])

end Response

end DocPress.Service
