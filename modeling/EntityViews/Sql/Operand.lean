import EntityViews.Fault

/-!
Operands of SQL conditions.
-/

namespace EntityViews.Sql

def floatOf : Decimal → Except Fault Binary64
  | .nan _ true _ _ => .error .signallingNan
  | d => .ok d.toBinary64

/-- A scalar as an operand: numbers for truth values, levels and decimals, texts for dates and kinds. -/
def scalarOperand : Scalar → Except Fault Scalar
  | .bool b => .ok (.int (if b then 1 else 0))
  | .datetime t => .ok (.text t.text)
  | .date d => .ok (.text d.text)
  | .decimal d => (floatOf d).map .float
  | .level l => .ok (.int l.value)
  | .columnKind k => .ok (.text k.word)
  | s => .ok s

mutual

/-- A value as an operand; every collection becomes a list of operands. -/
def operand : Value → Except Fault Value
  | .scalar s => (scalarOperand s).map .scalar
  | .list items | .tuple items | .set items => (operands items).map .list
  | .map entries => .ok (.map entries)

def operands : List Value → Except Fault (List Value)
  | [] => .ok []
  | item :: rest => do
    let first ← operand item
    let others ← operands rest
    return first :: others

end

end EntityViews.Sql
