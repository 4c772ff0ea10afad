import LanguageClient.Json.Printer

set_option autoImplicit false

namespace LanguageClient

/-- The id of a request; texts and numbers are never equal. -/
inductive Id where
  | text (value : String)
  | number (value : Int64)
deriving DecidableEq

def Id.render : Id → String
  | .text value => value
  | .number value => String.ofList (Decimal.signed value.toInt)

/-- The text of a response's id, which is null if the server could not tell what it answers. -/
def Id.renderNullable : Option Id → String
  | some id => id.render
  | none => "null"

inductive Params where
  | object (members : List (String × Json))
  | array (elements : List Json)
deriving DecidableEq

structure Request where
  id : Id
  method : String
  params : Option Params
deriving DecidableEq

structure Notification where
  method : String
  params : Option Params
deriving DecidableEq

structure ResponseError where
  code : Int64
  message : String
  data : Option Json
deriving DecidableEq

def ResponseError.render (error : ResponseError) : String :=
  let data := match error.data with
    | some data => " (data: " ++ data.render ++ ")"
    | none => ""
  "LSP error " ++ String.ofList (Decimal.signed error.code.toInt) ++ ": " ++ error.message ++ data

instance decidableEqResult {ε α : Type} [DecidableEq ε] [DecidableEq α] :
    DecidableEq (Except ε α)
  | .ok a, .ok b => decidable_of_iff (a = b) (by simp)
  | .error a, .error b => decidable_of_iff (a = b) (by simp)
  | .ok _, .error _ | .error _, .ok _ => isFalse (by simp)

structure Response where
  id : Option Id
  result : Except ResponseError Json
deriving DecidableEq

inductive Message where
  | request (request : Request)
  | response (response : Response)
  | notification (notification : Notification)
deriving DecidableEq

def Message.kind : Message → String
  | .request _ => "request"
  | .response _ => "response"
  | .notification _ => "notification"

end LanguageClient
