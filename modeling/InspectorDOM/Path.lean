import InspectorDOM.Requests

/-! `nodeForPath` resolves a path of the form `1,HTML,2,BODY,1,DIV`: from the main document,
take the visible child with that index and check its name, pair after pair. -/

namespace InspectorDOM

/-- `String::split(separator, false, result)` on the characters: empty entries are dropped. -/
def splitOn (separator : Char) : List Char → List (List Char)
  | [] => [[]]
  | c :: rest =>
    match splitOn separator rest with
    | [] => [[]]
    | current :: done => if c = separator then [] :: current :: done else (c :: current) :: done

def splitPath (path : String) : List String :=
  ((splitOn ',' path.data).filter (· ≠ [])).map String.mk

def digitValue (c : Char) : Option Nat :=
  if '0' ≤ c ∧ c ≤ '9' then some (c.toNat - '0'.toNat) else none

/-- The decimal digits of `toIntegralType<unsigned>`, leftmost first; `none` past `UINT_MAX`. -/
def digitsValue : List Char → Nat → Option Nat
  | [], value => some value
  | c :: rest, value =>
    match digitValue c with
    | some digit => if value * 10 + digit < 4294967296 then digitsValue rest (value * 10 + digit) else none
    | none => none

/-- `String::toUInt(&ok)`: blanks around an optional `+` and at least one digit, nothing else. -/
def toUInt (token : String) : Option Nat :=
  let chars := (token.data.dropWhile Dom.isSpaceOrNewline).reverse.dropWhile Dom.isSpaceOrNewline
  let chars := chars.reverse
  let chars := if chars.head? = some '+' then chars.tail else chars
  if chars = [] then none else
  if chars.all fun c => (digitValue c).isSome then digitsValue chars 0 else none

/-- `for (j = 0; child && j < childNumber; ++j) child = innerNextSibling(child)`. -/
def skipSiblings (dom : Dom) : Nat → Option Node → Option Node
  | 0, child => child
  | _, none => none
  | j + 1, some child => skipSiblings dom j (dom.innerNextSibling child)

/-- The `(index, name)` pairs the loop `for (i = 0; i < size - 1; i += 2)` reads; a last token
without a partner is not read. -/
def pathPairs : List String → List (String × String)
  | index :: name :: rest => (index,name) :: pathPairs rest
  | _ => []

def walkPath (dom : Dom) : List (String × String) → Node → Agent → Option Node × Agent
  | [], node, st => (some node, st)
  | (index, childName) :: rest, node, st =>
    match toUInt index with
    | none => (none, st)
    | some childNumber =>
      let st := listen dom node st
      if childNumber ≥ dom.innerChildNodeCount node then (none, st) else
      let st := listen dom node st
      match skipSiblings dom childNumber (dom.innerFirstChild node) with
      | none => (none, st)
      | some child => if dom.nodeName child ≠ childName then (none, st) else walkPath dom rest child st

def nodeForPath (dom : Dom) (path : String) (st : Agent) : Option Node × Agent :=
  match st.mainFrameDocument with
  | none => (none, st)
  | some document =>
    let pathTokens := splitPath path
    if pathTokens = [] then (none, st) else walkPath dom (pathPairs pathTokens) document st

def pushNodeByPathToFrontend (callId : Nat) (path : String) (w : World) : Except Fault World :=
  let found := nodeForPath w.dom path w.agent
  match found.1 with
  | none => .ok { w with agent := found.2.send (.didPushNodeByPathToFrontend callId 0) }
  | some node =>
    (pushNodePathToFrontend w.dom node found.2).map fun pushed =>
      { w with agent := pushed.2.send (.didPushNodeByPathToFrontend callId pushed.1) }

end InspectorDOM
