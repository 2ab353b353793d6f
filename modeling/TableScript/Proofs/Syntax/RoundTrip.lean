import TableScript.Proofs.Syntax.Printing

set_option autoImplicit false

namespace TableScript

inductive Node where
  | int (n : Int)
  | str (s : String)
  | bool (b : Bool)
  | dict (entries : List (Node × Node))
  | binary (op : BinaryOperator) (left right : Node)
  | unary (op : UnaryOperator) (operand : Node)
  | var (name : String)
  | assign (target : String) (value : Node)
  | call (function : String) (args : List Node)
  | index (container position : Node)
  | conditional (condition : Node) (body : List Node) (elifs : List (Node × List Node))
      (otherwise : Option (List Node))

namespace Node

mutual

def IsExpression : Node → Prop
  | .int _ | .str _ | .bool _ | .var _ => True
  | .dict entries => AreEntries entries
  | .binary _ left right => left.IsExpression ∧ right.IsExpression
  | .unary _ operand => operand.IsExpression
  | .assign _ value => value.IsExpression
  | .call _ args => AreExpressions args
  | .index container position => container.IsExpression ∧ position.IsExpression
  -- a conditional is no expression, however deep it stands
  | .conditional .. => False

def AreExpressions : List Node → Prop
  | [] => True
  | n :: later => n.IsExpression ∧ AreExpressions later

def AreEntries : List (Node × Node) → Prop
  | [] => True
  | (key, value) :: later => key.IsExpression ∧ value.IsExpression ∧ AreEntries later

end

mutual

def IsStatement : Node → Prop
  | .conditional condition body elifs otherwise =>
    condition.IsExpression ∧ WellFormed body ∧ AreBranches elifs ∧ IsOtherwise otherwise
  | n => n.IsExpression

/-- Conditionals stand only directly in lists of statements: this one, and the blocks in it. -/
def WellFormed : List Node → Prop
  | [] => True
  | n :: later => n.IsStatement ∧ WellFormed later

def AreBranches : List (Node × List Node) → Prop
  | [] => True
  | (condition, body) :: later => condition.IsExpression ∧ WellFormed body ∧ AreBranches later

def IsOtherwise : Option (List Node) → Prop
  | none => True
  | some body => WellFormed body

end

end Node

namespace Expr

mutual

def node : Expr → Node
  | .int n => .int n
  | .str s => .str s
  | .bool b => .bool b
  | .dict entries => .dict (entryNodes entries)
  | .binary op left right => .binary op left.node right.node
  | .unary op operand => .unary op operand.node
  | .var name => .var name
  | .assign target value => .assign target value.node
  | .call function args => .call function (nodes args)
  | .index container position => .index container.node position.node

def nodes : List Expr → List Node
  | [] => []
  | e :: later => e.node :: nodes later

def entryNodes : List (Expr × Expr) → List (Node × Node)
  | [] => []
  | (key, value) :: later => (key.node, value.node) :: entryNodes later

end

end Expr

namespace Stmt

mutual

def node : Stmt → Node
  | .expr e => e.node
  | .conditional condition body elifs otherwise =>
    .conditional condition.node (nodes body) (elifNodes elifs) (otherwiseNodes otherwise)

def nodes : List Stmt → List Node
  | [] => []
  | s :: later => s.node :: nodes later

def elifNodes : List (Expr × List Stmt) → List (Node × List Node)
  | [] => []
  | (condition, body) :: later => (condition.node, nodes body) :: elifNodes later

def otherwiseNodes : Option (List Stmt) → Option (List Node)
  | none => none
  | some body => some (nodes body)

end

end Stmt

namespace Node

mutual

theorem isExpression_node : (e : Expr) → e.node.IsExpression
  | .int _ | .str _ | .bool _ | .var _ => trivial
  | .dict entries => areEntries_entryNodes entries
  | .binary _ left right => ⟨isExpression_node left, isExpression_node right⟩
  | .unary _ operand => isExpression_node operand
  | .assign _ value => isExpression_node value
  | .call _ args => areExpressions_nodes args
  | .index container position => ⟨isExpression_node container, isExpression_node position⟩

theorem areExpressions_nodes : (args : List Expr) → AreExpressions (Expr.nodes args)
  | [] => trivial
  | e :: later => ⟨isExpression_node e, areExpressions_nodes later⟩

theorem areEntries_entryNodes : (entries : List (Expr × Expr)) → AreEntries (Expr.entryNodes entries)
  | [] => trivial
  | (key, value) :: later =>
    ⟨isExpression_node key, isExpression_node value, areEntries_entryNodes later⟩

end

theorem isStatement_of_isExpression (n : Node) (h : n.IsExpression) : n.IsStatement := by
  cases n with
  | conditional => exact h.elim
  | _ => exact h

mutual

theorem isStatement_node : (s : Stmt) → s.node.IsStatement
  | .expr e => isStatement_of_isExpression e.node (isExpression_node e)
  | .conditional condition body elifs otherwise =>
    ⟨isExpression_node condition, wellFormed_nodes body, areBranches_elifNodes elifs,
      isOtherwise_otherwiseNodes otherwise⟩

theorem wellFormed_nodes : (p : List Stmt) → WellFormed (Stmt.nodes p)
  | [] => trivial
  | s :: later => ⟨isStatement_node s, wellFormed_nodes later⟩

theorem areBranches_elifNodes : (elifs : List (Expr × List Stmt)) → AreBranches (Stmt.elifNodes elifs)
  | [] => trivial
  | (condition, body) :: later =>
    ⟨isExpression_node condition, wellFormed_nodes body, areBranches_elifNodes later⟩

theorem isOtherwise_otherwiseNodes : (otherwise : Option (List Stmt)) →
    IsOtherwise (Stmt.otherwiseNodes otherwise)
  | none => trivial
  | some body => wellFormed_nodes body

end

mutual

theorem exists_expr : (n : Node) → n.IsExpression → ∃ e : Expr, e.node = n
  | .int n, _ => ⟨.int n, rfl⟩
  | .str s, _ => ⟨.str s, rfl⟩
  | .bool b, _ => ⟨.bool b, rfl⟩
  | .var name, _ => ⟨.var name, rfl⟩
  | .dict entries, h => by
    obtain ⟨all, rfl⟩ := exists_entries entries h
    exact ⟨.dict all, rfl⟩
  | .binary op left right, h => by
    obtain ⟨l, rfl⟩ := exists_expr left h.1
    obtain ⟨r, rfl⟩ := exists_expr right h.2
    exact ⟨.binary op l r, rfl⟩
  | .unary op operand, h => by
    obtain ⟨e, rfl⟩ := exists_expr operand h
    exact ⟨.unary op e, rfl⟩
  | .assign target value, h => by
    obtain ⟨e, rfl⟩ := exists_expr value h
    exact ⟨.assign target e, rfl⟩
  | .call function args, h => by
    obtain ⟨all, rfl⟩ := exists_exprs args h
    exact ⟨.call function all, rfl⟩
  | .index container position, h => by
    obtain ⟨c, rfl⟩ := exists_expr container h.1
    obtain ⟨p, rfl⟩ := exists_expr position h.2
    exact ⟨.index c p, rfl⟩
  | .conditional .., h => h.elim

theorem exists_exprs : (ns : List Node) → AreExpressions ns → ∃ es : List Expr, Expr.nodes es = ns
  | [], _ => ⟨[], rfl⟩
  | n :: later, h => by
    obtain ⟨e, rfl⟩ := exists_expr n h.1
    obtain ⟨es, rfl⟩ := exists_exprs later h.2
    exact ⟨e :: es, rfl⟩

theorem exists_entries : (ns : List (Node × Node)) → AreEntries ns →
    ∃ all : List (Expr × Expr), Expr.entryNodes all = ns
  | [], _ => ⟨[], rfl⟩
  | (key, value) :: later, h => by
    obtain ⟨k, rfl⟩ := exists_expr key h.1
    obtain ⟨v, rfl⟩ := exists_expr value h.2.1
    obtain ⟨all, rfl⟩ := exists_entries later h.2.2
    exact ⟨(k, v) :: all, rfl⟩

end

mutual

theorem exists_stmt (n : Node) (h : n.IsStatement) : ∃ s : Stmt, s.node = n := by
  cases n with
  | conditional condition body elifs otherwise =>
    obtain ⟨c, rfl⟩ := exists_expr condition h.1
    obtain ⟨b, rfl⟩ := exists_stmts body h.2.1
    obtain ⟨es, rfl⟩ := exists_branches elifs h.2.2.1
    obtain ⟨o, rfl⟩ := exists_otherwise otherwise h.2.2.2
    exact ⟨.conditional c b es o, rfl⟩
  | _ =>
    obtain ⟨e, same⟩ := exists_expr _ h
    exact ⟨.expr e, same⟩

theorem exists_stmts : (ns : List Node) → WellFormed ns → ∃ p : List Stmt, Stmt.nodes p = ns
  | [], _ => ⟨[], rfl⟩
  | n :: later, h => by
    obtain ⟨s, rfl⟩ := exists_stmt n h.1
    obtain ⟨p, rfl⟩ := exists_stmts later h.2
    exact ⟨s :: p, rfl⟩

theorem exists_branches : (ns : List (Node × List Node)) → AreBranches ns →
    ∃ elifs : List (Expr × List Stmt), Stmt.elifNodes elifs = ns
  | [], _ => ⟨[], rfl⟩
  | (condition, body) :: later, h => by
    obtain ⟨c, rfl⟩ := exists_expr condition h.1
    obtain ⟨b, rfl⟩ := exists_stmts body h.2.1
    obtain ⟨es, rfl⟩ := exists_branches later h.2.2
    exact ⟨(c, b) :: es, rfl⟩

theorem exists_otherwise : (n : Option (List Node)) → IsOtherwise n →
    ∃ otherwise : Option (List Stmt), Stmt.otherwiseNodes otherwise = n
  | none, _ => ⟨none, rfl⟩
  | some body, h => by
    obtain ⟨b, rfl⟩ := exists_stmts body h
    exact ⟨some b, rfl⟩

end

theorem wellFormed_iff (ns : List Node) : WellFormed ns ↔ ∃ p : Program, Stmt.nodes p = ns := by
  constructor
  next => exact exists_stmts ns
  next =>
    rintro ⟨p, rfl⟩
    exact wellFormed_nodes p

end Node

namespace Program

theorem ofTokens_of_kinds (p : Program) (ts : List Token) (kinds : ts.map (·.kind) = p.tokens) :
    ofTokens ts = .ok p := by
  have derives : Grammar.DerivesProgram (ts.map (·.kind)) p := kinds ▸ p.derives_tokens
  refine ofTokens_of_derives ts (fun t here last => ?_) p derives
  have inside : .eof ∈ ts.map (·.kind) := List.mem_map.mpr ⟨t, here, last⟩
  exact List.not_mem_nil (derives.eof_mem inside)

theorem reading_undoes_printing :
    (∀ ns : List Node, Node.WellFormed ns → ∃ p : Program, Stmt.nodes p = ns ∧
      ∀ ts : List Token, ts.map (·.kind) = p.tokens → ofTokens ts = .ok p) ∧
    ∀ (source : List Token) (p : Program), ofTokens source = .ok p →
      Node.WellFormed (Stmt.nodes p) ∧
        ∀ ts : List Token, ts.map (·.kind) = p.tokens → ofTokens ts = .ok p := by
  constructor
  next =>
    intro ns h
    obtain ⟨p, same⟩ := (Node.wellFormed_iff ns).mp h
    exact ⟨p, same, ofTokens_of_kinds p⟩
  next =>
    -- whatever was read is a program, and programs are well-formed
    intro source p _
    exact ⟨(Node.wellFormed_iff _).mpr ⟨p, rfl⟩, ofTokens_of_kinds p⟩

end Program

end TableScript
