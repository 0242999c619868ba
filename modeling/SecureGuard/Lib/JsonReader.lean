import Mathlib.Data.List.Basic

/-! # JSON texts and their reader

A text is the tokens of a JSON value, and a streaming reader takes them one after another. -/

namespace JsonReader

variable {α : Type}

/-! ## Tokens -/

inductive Token (α : Type)
  | beginObject
  | endObject
  | beginArray
  | endArray
  | name (text : α)
  | string (text : α)
  | number (text : α)
  | boolean (value : Bool)
  | null
deriving DecidableEq, Repr

/-- What a reader throws: an `IllegalStateException` at a token it does not expect, an
`IOException` at the end of the text. -/
inductive Thrown
  | illegalState
  | io
deriving DecidableEq, Repr

/-- A token that is expected is taken. -/
def expect [DecidableEq α] (token : Token α) : List (Token α) → Except Thrown (List (Token α))
  | [] => .error .io
  | t :: tokens => if t = token then .ok tokens else .error .illegalState

def nextName : List (Token α) → Except Thrown (α × List (Token α))
  | [] => .error .io
  | .name text :: tokens => .ok (text, tokens)
  | _ :: _ => .error .illegalState

/-- A number is taken as it is written. -/
def nextString : List (Token α) → Except Thrown (α × List (Token α))
  | [] => .error .io
  | .string text :: tokens => .ok (text, tokens)
  | .number text :: tokens => .ok (text, tokens)
  | _ :: _ => .error .illegalState

/-! ## Values -/

inductive Json (α : Type)
  | null
  | boolean (value : Bool)
  | number (text : α)
  | string (text : α)
  | array (elements : List (Json α))
  | object (members : List (α × Json α))

/-- The text of a string or a number. -/
def Json.text? : Json α → Option α
  | string text => some text
  | number text => some text
  | _ => none

mutual

def Json.tokens : Json α → List (Token α)
  | .null => [.null]
  | .boolean value => [.boolean value]
  | .number text => [.number text]
  | .string text => [.string text]
  | .array elements => .beginArray :: (elementTokens elements ++ [.endArray])
  | .object members => .beginObject :: (memberTokens members ++ [.endObject])

def elementTokens : List (Json α) → List (Token α)
  | [] => []
  | element :: elements => element.tokens ++ elementTokens elements

def memberTokens : List (α × Json α) → List (Token α)
  | [] => []
  | (name, value) :: members => .name name :: (value.tokens ++ memberTokens members)

end

/-! ## Reading a text -/

@[simp] theorem expect_cons [DecidableEq α] (token : Token α) (tokens : List (Token α)) :
    expect token (token :: tokens) = .ok tokens := if_pos rfl

@[simp] theorem nextName_cons (name : α) (tokens : List (Token α)) :
    nextName (.name name :: tokens) = .ok (name, tokens) := rfl

/-- A string is taken from the text of a string or a number, and from no other. -/
theorem nextString_tokens (value : Json α) (tokens : List (Token α)) :
    nextString (value.tokens ++ tokens) =
      value.text?.elim (.error .illegalState) fun text => .ok (text, tokens) := by
  cases value with
  | _ => simp [Json.tokens, nextString, Json.text?]

end JsonReader
