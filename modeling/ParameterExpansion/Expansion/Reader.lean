import ParameterExpansion.Expansion.Basic
import ParameterExpansion.Error

/-!
Reading the body of an expansion: an exclamation mark for an indirect reference, the longest name,
the longest symbol, and the operands that go with it. Operand text is taken as it stands; only a
replacement has its slashes unescaped.
-/
namespace ParameterExpansion.Expansion

/-- One number of a substring operator, and what follows it. -/
def readBound (bound : Bound) (t : Text) : Except Error (Int × Text) :=
  let (field, rest) := splitInteger t
  match field.value? with
  | none => .error (.malformed (.nonNumeric bound))
  | some n =>
    if InBounds n then
      .ok (n, rest)
    else
      .error (.malformed (.outOfRange bound field.numeral))

/-- An offset, and a length after a colon. What follows the last number has no meaning, so the
whole body has none. -/
def readSubstring (body t : Text) : Except Error Operator :=
  match readBound .offset t with
  | .error e => .error e
  | .ok (offset, []) => .ok (.substring offset none)
  | .ok (offset, c :: rest) =>
    if c = ':' then
      match readBound .length rest with
      | .error e => .error e
      | .ok (length, []) => .ok (.substring offset (some length))
      | .ok (_, _ :: _) => .error (.unsupported body)
    else
      .error (.unsupported body)

/-- A pattern and its replacement, on either side of a slash. -/
def readReplacement (scope : Scope) (operand : Text) : Except Error Operator :=
  match splitSlash false operand with
  | none => .error (.malformed (.missingSlash operand))
  | some (p, r) => .ok (.replace scope (unescapeSlash p) (unescapeSlash r))

/-- One letter, and nothing after it. -/
def readTransformation (body : Text) : Text → Except Error Operator
  | [] => .error (.malformed (.unknownTransformation []))
  | c :: rest =>
    if c ∈ transformationLetters then
      if rest = [] then .ok (.transformation [c]) else .error (.unsupported body)
    else
      .error (.malformed (.unknownTransformation [c]))

/-- The operator of a kind with its operands; `body` is the body that it stands in. -/
def readOperator (body operand : Text) : Operator.Kind → Except Error Operator
  | .bare => .ok .bare
  | .fallback => .ok (.fallback operand)
  | .alternate => .ok (.alternate operand)
  | .require => .ok (.require operand)
  | .substring => readSubstring body operand
  | .remove side reach => .ok (.remove side reach operand)
  | .replace scope => readReplacement scope operand
  | .recase target which => .ok (.recase target which operand)
  | .transformation => readTransformation body operand

/-- The kind whose symbol begins the text, and what follows the symbol. -/
def splitSymbol (t : Text) : Option (Operator.Kind × Text) :=
  Operator.Kind.introduced.findSome? fun kind =>
    (kind.symbol.isPrefixOf? t).map fun operand => (kind, operand)

/-- Whether an exclamation mark makes the reference indirect, and what follows it. -/
def splitIndirect : Text → Bool × Text
  | '!' :: rest => (true, rest)
  | t => (false, t)

/-- The expansion with a given body. -/
def parse (body : Text) : Except Error Expansion :=
  if body = [] then
    .error (.malformed .empty)
  else
    let (indirect, t) := splitIndirect body
    match splitName t with
    | none => .error .invalidName
    | some (name, []) => .ok ⟨⟨name, indirect⟩, .bare⟩
    | some (name, c :: rest) =>
      match splitSymbol (c :: rest) with
      | none => .error (.unsupported body)
      | some (kind, operand) =>
        (readOperator body operand kind).map fun op => ⟨⟨name, indirect⟩, op⟩

end ParameterExpansion.Expansion
