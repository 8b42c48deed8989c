import ControlPlane.Json.Basic
import ControlPlane.Json.Token

/-! JSON values of lexemes. The values that are still open are kept on a stack. -/
namespace ControlPlane.Json

/-- A value that is open, with the members read so far, the last one first. -/
inductive Frame where
  | array (elements : List Json)
  | object (members : List (Option String × Json)) (key : Option String)

/-- What may come next. -/
inductive Expect where
  | value
  | firstElement
  | firstKey
  | key (members : List (Option String × Json))
  | colon
  | more (done : Json)

structure Parser where
  stack : List Frame
  expect : Expect

/-- An object with an ill-formed key is garbled as a whole. -/
def ofMembers (reversed : List (Option String × Json)) : Json :=
  match reversed.reverse.mapM fun (key, value) => key.map fun k => (k, value) with
  | some members => .obj members
  | none => .garbled

namespace Parser

def start : Parser := ⟨[], .value⟩

/-- Takes the lexeme that begins a value. -/
def value? (stack : List Frame) : Token → Option Parser
  | .null => some ⟨stack, .more .null⟩
  | .bool b => some ⟨stack, .more (.bool b)⟩
  | .int n => some ⟨stack, .more (.int n)⟩
  | .real literal => some ⟨stack, .more (.real literal)⟩
  | .str (some s) => some ⟨stack, .more (.str s)⟩
  | .str none => some ⟨stack, .more .garbled⟩
  | .bracketOpen => some ⟨stack, .firstElement⟩
  | .braceOpen => some ⟨stack, .firstKey⟩
  | _ => none

/-- Takes the lexeme after a value that is complete. -/
def more? (stack : List Frame) (done : Json) (token : Token) : Option Parser :=
  match stack, token with
  | .array es :: stack, .comma => some ⟨.array (done :: es) :: stack, .value⟩
  | .array es :: stack, .bracketClose => some ⟨stack, .more (.arr (done :: es).reverse)⟩
  | .object ms key :: stack, .comma => some ⟨stack, .key ((key, done) :: ms)⟩
  | .object ms key :: stack, .braceClose => some ⟨stack, .more (ofMembers ((key, done) :: ms))⟩
  | _, _ => none

def step? (p : Parser) (token : Token) : Option Parser :=
  match p.expect, token with
  | .value, token => value? p.stack token
  | .firstElement, .bracketClose => some ⟨p.stack, .more (.arr [])⟩
  | .firstElement, token => value? (.array [] :: p.stack) token
  | .firstKey, .braceClose => some ⟨p.stack, .more (.obj [])⟩
  | .firstKey, .str key => some ⟨.object [] key :: p.stack, .colon⟩
  | .key ms, .str key => some ⟨.object ms key :: p.stack, .colon⟩
  | .colon, .colon => some ⟨p.stack, .value⟩
  | .more done, token => more? p.stack done token
  | _, _ => none

def result? (p : Parser) : Option Json :=
  match p.stack, p.expect with
  | [], .more done => some done
  | _, _ => none

end Parser

/-- Reads a text that holds one value and blanks around it. -/
def parse? (bytes : List UInt8) : Option Json := do
  let tokens ← Token.scan? bytes
  (← tokens.foldlM Parser.step? Parser.start).result?

end ControlPlane.Json
