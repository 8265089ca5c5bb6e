/-
Which tokens the nodes of a tree keep for what is said of them later: names, operators, keywords and
closing parentheses. Each is one of the tokens that the tree was read from, so what holds of those
holds of everything that is kept, at every depth of the tree.
-/

import Lox.Proofs.Grammar.Program
import Lox.Proofs.Grammar.Sound
import Lox.Proofs.Tree.Readable

namespace Lox

open Constituent (Throughout)

/-! ### Tokens of nodes -/

/-- The token of a mark on a line. -/
def Mark.tokenOn (mark : Mark) (line : Nat) : Token :=
  ⟨.mark mark, mark.spelling, line⟩

/-- The token of a keyword. -/
def Identifier.sign (mark : Mark) (keyword : Identifier) : Token :=
  ⟨.mark mark, keyword.name, keyword.line⟩

/-- The mark that spells the operator between its operands. -/
def BinaryOperator.mark : BinaryOperator → Mark
  | .add => .plus | .subtract => .minus | .multiply => .star | .divide => .slash
  | .equal => .equalEqual | .notEqual => .bangEqual
  | .greater => .greater | .greaterEqual => .greaterEqual
  | .less => .less | .lessEqual => .lessEqual

/-- The mark that spells the loop control. -/
def LoopControl.mark : LoopControl → Mark
  | .break => .breakWord
  | .continue => .continueWord

/-- Something holds of every one of the tokens. -/
def Token.All (holds : Token → Prop) : List Token → Prop
  | [] => True
  | token :: others => holds token ∧ All holds others

namespace Constituent

/-- The tokens that a part keeps, apart from those of what is inside it. -/
def tokens : Constituent → List Token
  | .expression (.unary operator line _) => [operator.mark.tokenOn line]
  | .expression (.binary operator line _ _) => [operator.mark.tokenOn line]
  | .expression (.read _ name) => [name.token]
  | .expression (.assign _ name _) => [name.token]
  | .expression (.call _ line _) => [Mark.rightParen.tokenOn line]
  | .expression (.get _ name) => [name.token]
  | .expression (.set _ name _) => [name.token]
  | .expression (.this _ keyword) => [keyword.sign .thisWord]
  | .expression (.super _ keyword method) => [keyword.sign .superWord, method.token]
  | .statement (.declareVariable name _) => [name.token]
  | .statement (.control control keyword) => [keyword.sign control.mark]
  | .statement (.giveBack keyword _) => [keyword.sign .returnWord]
  | .statement (.declareClass name _ _) => [name.token]
  | .function (.mk name parameters _) =>
    name.toList.map Identifier.token ++ parameters.map Identifier.token
  | _ => []

/-- Something holds of every token that a part keeps. -/
def Keeps (holds : Token → Prop) (part : Constituent) : Prop :=
  Token.All holds part.tokens

end Constituent

namespace Token

variable {holds : Token → Prop}

theorem all_iff {tokens : List Token} : All holds tokens ↔ ∀ token ∈ tokens, holds token := by
  induction tokens with
  | nil => exact ⟨fun _ => nofun, fun _ => trivial⟩
  | cons token others inductionHypothesis =>
    rw [List.forall_mem_cons, ← inductionHypothesis]
    rfl

theorem all_append {first second : List Token} :
    All holds (first ++ second) ↔ All holds first ∧ All holds second := by
  simp only [all_iff, List.forall_mem_append]

end Token

/-! ### Spelled tokens -/

/-- The token is an end, or is written as its kind demands. -/
def Token.IsSpelled (token : Token) : Prop :=
  token.isEnd = true ∨ Source.Lexeme token.kind token.lexeme.toList

/-- A token of a mark is spelled as the mark is. -/
theorem lexeme_of_spelled {mark : Mark} {lexeme : String} {line : Nat}
    (spelled : Token.IsSpelled ⟨.mark mark, lexeme, line⟩) : lexeme = mark.spelling := by
  have isLexeme : Source.Lexeme (.mark mark) lexeme.toList := spelled.resolve_left nofun
  generalize isText : lexeme.toList = text at isLexeme
  cases isLexeme
  exact String.toList_inj.mp isText

namespace Constituent

/-- The words of a part are spelled as they are in a source if the tokens are that it keeps. -/
theorem Keeps.worded {part : Constituent} (spelled : part.Keeps Token.IsSpelled) :
    part.Worded := by
  have isName {name : Identifier} (isSpelled : name.token.IsSpelled) : name.IsName :=
    isSpelled.resolve_left nofun
  cases part with
  | binding word => trivial
  | expression tree =>
    cases tree with
    | read | assign | get | set => exact isName spelled.1
    | this reference keyword => exact lexeme_of_spelled spelled.1
    | super reference keyword method => exact ⟨lexeme_of_spelled spelled.1, isName spelled.2.1⟩
    | _ => trivial
  | statement tree =>
    cases tree with
    | declareVariable | declareClass => exact isName spelled.1
    | control control keyword => cases control <;> exact lexeme_of_spelled spelled.1
    | giveBack keyword value => exact lexeme_of_spelled spelled.1
    | _ => trivial
  | function declaration =>
    obtain ⟨name, parameters, body⟩ := declaration
    have ⟨ofName, ofParameters⟩ := Token.all_append.mp spelled
    refine ⟨fun word member => isName (Token.all_iff.mp ofName _ ?_),
      fun parameter member => isName (Token.all_iff.mp ofParameters _ ?_)⟩
    · exact List.mem_map_of_mem (Option.mem_toList.mpr member)
    · exact List.mem_map_of_mem member

end Constituent

namespace Grammar

open Token (All)

variable {holds : Token → Prop}

/-! ### Parts of derivations -/

/-- The trees that a derivation of the symbol stands for. -/
def Symbol.constituents : (symbol : Symbol) → symbol.Tree → List Constituent
  | .program, trees | .declarations, trees | .block, trees => List.map .statement trees
  | .declaration, tree | .variable, tree | .statement, tree | .expressionStatement, tree =>
    [.statement tree]
  | .methods, trees => List.map .function trees
  | .function, tree => [.function tree]
  | .loopInitializer, tree? => (Option.map .statement tree?).toList
  | .optionalExpression, tree? => (Option.map .expression tree?).toList
  | .arguments, trees => List.map .expression trees
  | .loneExpression, tree | .expression, tree | .operands _, tree | .call, tree
  | .primary, tree => [.expression tree]

/-- Something holds of every token that is kept in one of the parts. -/
def AllKeep (holds : Token → Prop) (parts : List Constituent) : Prop :=
  ∀ part ∈ parts, Throughout (Constituent.Keeps holds) part

namespace AllKeep

theorem nil : AllKeep holds [] := nofun

theorem append {first second : List Constituent} (keep : AllKeep holds first)
    (keepToo : AllKeep holds second) : AllKeep holds (first ++ second) :=
  List.forall_mem_append.mpr ⟨keep, keepToo⟩

/-- A node, by its own tokens and by its parts. -/
theorem node {whole : Constituent} (here : whole.Keeps holds) (parts : AllKeep holds whole.parts) :
    AllKeep holds [whole] :=
  List.forall_mem_singleton.mpr (.intro here parts)

/-- A name that is bound keeps nothing and has nothing inside. -/
theorem binding (word : String) : AllKeep holds [.binding word] :=
  node trivial nil

theorem bindings (names : List Identifier) :
    AllKeep holds (names.map fun name => .binding name.name) := by
  intro part member
  obtain ⟨name, _, rfl⟩ := List.mem_map.mp member
  exact binding name.name _ List.mem_cons_self

theorem join {tier : Tier} {line : Nat} {left right : Expression} (operator : Operator tier)
    (isToken : holds (operator.mark.tokenOn line)) (keep : AllKeep holds [.expression left])
    (keepToo : AllKeep holds [.expression right]) :
    AllKeep holds [.expression (operator.join line left right)] := by
  cases operator with
  | or | and => exact node trivial (keep.append keepToo)
  | _ => exact node ⟨isToken, trivial⟩ (keep.append keepToo)

theorem giveBack {keyword : Identifier} {value : Option Expression}
    (isToken : holds (keyword.sign .returnWord))
    (keep : AllKeep holds (value.map Constituent.expression).toList) :
    AllKeep holds [.statement (.giveBack keyword value)] := by
  refine node ⟨isToken, trivial⟩ ?_
  rwa [Option.toList_map] at keep

/-- What a `for` loop stands for keeps what its parts keep. -/
theorem desugared {initializer : Option Statement} {condition increment : Option Expression}
    {body : Statement}
    (inInitializer : AllKeep holds (initializer.map Constituent.statement).toList)
    (inCondition : AllKeep holds (condition.map Constituent.expression).toList)
    (inIncrement : AllKeep holds (increment.map Constituent.expression).toList)
    (inBody : AllKeep holds [.statement body]) :
    AllKeep holds [.statement (Grammar.desugared initializer condition increment body)] := by
  have isCondition : AllKeep holds
      [.expression (condition.getD (.literal (.boolean true)))] := by
    cases condition with
    | none => exact node trivial nil
    | some condition => exact inCondition
  have loop : AllKeep holds [.statement (.loop (condition.getD (.literal (.boolean true))) body
      (increment.map .expression))] := by
    refine node trivial (isCondition.append (inBody.append ?_))
    cases increment with
    | none => exact nil
    | some increment => exact node trivial inIncrement
  cases initializer with
  | none => exact loop
  | some initializer => exact node trivial (inInitializer.append loop)

end AllKeep

/-! ### Derivations -/

theorem parameters_all {parameters : Option Parameters} {rest : List Token}
    (all : All holds (writeParameters rest parameters)) :
    All holds ((parameterNames parameters).map Identifier.token) ∧ All holds rest := by
  cases parameters with
  | none => exact ⟨trivial, all⟩
  | some parameters =>
    replace all : All holds (parameters.write rest) := all
    show All holds (parameters.names.map Identifier.token) ∧ _
    induction parameters with
    | last name => exact ⟨⟨all.1, trivial⟩, all.2⟩
    | more name comma others inductionHypothesis =>
      obtain ⟨areNames, isRest⟩ := inductionHypothesis all.2.2
      exact ⟨⟨all.1, areNames⟩, isRest⟩

namespace Derivation

variable {symbol : Symbol} {rest : List Token}

/-- What holds of all tokens holds of those behind a derivation. -/
theorem all_behind (derivation : Derivation symbol) (all : All holds (derivation.write rest)) :
    All holds rest := by
  rw [derivation.write_eq, Token.all_append] at all
  exact all.2

/-- What holds of the tokens of a derivation, which are spelled, holds of every token that is kept
in its tree. -/
theorem keeps (spelled : ∀ token, holds token → token.IsSpelled) (derivation : Derivation symbol)
    (rest : List Token) (low : Reference) (all : All holds (derivation.write rest)) :
    AllKeep holds (symbol.constituents (derivation.tree low)) := by
  -- the tree keeps the line of a sign, whose spelling is known
  have sign {mark : Mark} {sign : Sign mark} (isToken : holds sign.token) :
      holds (mark.tokenOn sign.line) := by
    have same : sign.token = mark.tokenOn sign.line :=
      congrArg (Token.mk _ · _) (lexeme_of_spelled (spelled _ isToken))
    rwa [← same]
  induction derivation generalizing rest low with
  | wholeProgram _ _ inside | wholeExpression _ _ inside | variableDeclaration _ inside
  | statementDeclaration _ inside | evaluationStatement _ inside | variableInitializer _ inside
  | plainInitializer _ inside | someExpression _ inside | plainExpression _ inside
  | soleOperand _ inside | plainCall _ inside | plainPrimary _ inside | lastArgument _ inside =>
    exact inside _ low all
  | noDeclarations | noMethods | noInitializer | noExpression => exact .nil
  | moreDeclarations first _ inFirst inOthers | moreMethods first _ inFirst inOthers =>
    exact .append (inFirst _ low all) (inOthers _ _ (first.all_behind all))
  | moreArguments first _ _ inFirst inOthers =>
    exact .append (inFirst _ low all) (inOthers _ _ (first.all_behind all).2)
  | classDeclaration _ name _ _ _ inMethods =>
    obtain ⟨_, isName, _, all⟩ := all
    exact .node ⟨isName, trivial⟩ (.append (.binding _) (inMethods _ low all))
  | subclassDeclaration _ name _ superclass _ _ _ inMethods =>
    obtain ⟨_, isName, _, isSuperclass, _, all⟩ := all
    have keep : AllKeep holds [.expression (.read low superclass)] :=
      .node ⟨isSuperclass, trivial⟩ .nil
    exact .node ⟨isName, trivial⟩ (.append (.append (.binding _) keep) (inMethods _ _ all))
  | functionDeclaration _ function inFunction =>
    refine .node trivial (.append (inFunction _ low all.2) ?_)
    rintro _ member
    obtain ⟨name, _, rfl⟩ := List.mem_map.mp member
    exact (AllKeep.binding _) _ List.mem_cons_self
  | namedFunction name _ parameters _ _ inBody =>
    obtain ⟨isName, _, all⟩ := all
    obtain ⟨areNames, _, all⟩ := parameters_all all
    exact .node ⟨isName, areNames⟩
      (.append (.bindings (parameterNames parameters)) (inBody _ low all))
  | braces _ _ _ inside => exact inside _ low all.2
  | uninitialized _ name _ => exact .node ⟨all.2.1, trivial⟩ (.binding _)
  | initialized _ name _ _ _ inValue =>
    obtain ⟨_, isName, _, all⟩ := all
    exact .node ⟨isName, trivial⟩ (.append (.binding _) (inValue _ low all))
  | forStatement _ _ initializer condition _ increment _ body inInitializer inCondition inIncrement
      inBody =>
    obtain ⟨_, _, all⟩ := all
    have afterInitializer := initializer.all_behind all
    have afterCondition := (condition.all_behind afterInitializer).2
    have afterIncrement := (increment.all_behind afterCondition).2
    exact .desugared (inInitializer _ _ all) (inCondition _ _ afterInitializer)
      (inIncrement _ _ afterCondition) (inBody _ _ afterIncrement)
  | ifStatement _ _ condition _ _ inCondition inThen =>
    obtain ⟨_, _, all⟩ := all
    exact .node trivial (.append (inCondition _ low all)
      (inThen _ _ (condition.all_behind all).2))
  | ifElseStatement _ _ condition _ thenBranch _ _ inCondition inThen inElse =>
    obtain ⟨_, _, all⟩ := all
    have afterCondition := (condition.all_behind all).2
    exact .node trivial (.append (inCondition _ low all) (.append (inThen _ _ afterCondition)
      (inElse _ _ (thenBranch.all_behind afterCondition).2)))
  | whileStatement _ _ condition _ _ inCondition inBody =>
    obtain ⟨_, _, all⟩ := all
    exact .node trivial (.append (inCondition _ low all)
      (inBody _ _ (condition.all_behind all).2))
  | printStatement _ _ _ inValue => exact .node trivial (inValue _ low all.2)
  | returnStatement word _ _ inValue => exact .giveBack all.1 (inValue _ low all.2)
  | breakStatement word _ | continueStatement word _ => exact .node ⟨all.1, trivial⟩ .nil
  | blockStatement _ inside => exact .node trivial (inside _ low all)
  | terminated _ _ inside => exact .node trivial (inside _ low all)
  | assignVariable name _ _ inValue =>
    obtain ⟨isName, _, all⟩ := all
    exact .node ⟨isName, trivial⟩ (.append (inValue _ _ all) (.binding _))
  | assignProperty object _ name _ _ inObject inValue =>
    obtain ⟨_, isName, _, behind⟩ := object.all_behind all
    exact .node ⟨isName, trivial⟩ (.append (inObject _ low all) (inValue _ _ behind))
  | joinedOperands left operator _ _ inLeft inRight =>
    obtain ⟨isSign, behind⟩ := left.all_behind all
    exact .join operator (sign isSign) (inLeft _ low all) (inRight _ _ behind)
  | unaryOperation _ _ _ inOperand =>
    exact .node ⟨sign all.1, trivial⟩ (inOperand _ low all.2)
  | callWithout callee _ _ inCallee =>
    obtain ⟨_, isClosing, _⟩ := callee.all_behind all
    exact .node ⟨sign isClosing, trivial⟩ (inCallee _ low all)
  | callWith callee _ arguments _ inCallee inArguments =>
    have behind := (callee.all_behind all).2
    exact .node ⟨sign (arguments.all_behind behind).1, trivial⟩
      (.append (inCallee _ low all) (inArguments _ _ behind))
  | property object _ name inObject =>
    obtain ⟨_, isName, _⟩ := object.all_behind all
    exact .node ⟨isName, trivial⟩ (inObject _ low all)
  | numberLiteral | stringLiteral | trueLiteral | falseLiteral | nilLiteral =>
    exact .node trivial .nil
  | receiver word => exact .node ⟨all.1, trivial⟩ .nil
  | superMethod word _ method =>
    obtain ⟨isWord, _, isName, _⟩ := all
    exact .node ⟨isWord, isName, trivial⟩ .nil
  | variableName name => exact .node ⟨all.1, trivial⟩ .nil
  | grouping _ _ _ inside => exact .node trivial (inside _ low all.2)
  | anonymousFunction _ _ parameters _ _ inBody =>
    obtain ⟨_, _, all⟩ := all
    obtain ⟨areNames, _, all⟩ := parameters_all all
    exact .node trivial (.node areNames
      (.append (.bindings (parameterNames parameters)) (inBody _ low all)))

end Derivation

/-! ### What is read -/

section

variable (spelled : ∀ token, holds token → token.IsSpelled)

include spelled

/-- What holds of the tokens is kept throughout a declaration that is read from them. -/
theorem declaration_keeps {depth : Nat} {tokens : List Token} {low : Reference}
    (all : ∀ token ∈ tokens, holds token) {statement : Statement} {after : State}
    (ended : declaration depth ⟨tokens, low⟩ = .ok statement after) :
    Throughout (Constituent.Keeps holds) (.statement statement) := by
  obtain ⟨derivation, isTokens, rfl, _⟩ := ((nested_sound depth).declaration tokens low).ok ended
  rw [isTokens] at all
  exact derivation.keeps spelled after.rest low (Token.all_iff.mpr all) _ List.mem_cons_self

theorem attempts_keep (depth limit : Nat) {tokens : List Token} {low : Reference}
    (all : ∀ token ∈ tokens, holds token) {statement : Statement}
    (read : .ok statement ∈ (attempts depth limit ⟨tokens, low⟩).1) :
    Throughout (Constituent.Keeps holds) (.statement statement) := by
  induction limit generalizing tokens low with
  | zero => exact absurd read List.not_mem_nil
  | succ limit inductionHypothesis =>
    have later {after : State} (later : State.Later ⟨tokens, low⟩ after)
        (read : .ok statement ∈ (attempts depth limit after).1) :
        Throughout (Constituent.Keeps holds) (.statement statement) :=
      inductionHypothesis (fun token member => all token (later.rest.subset member)) read
    have reads := (nested_read depth).2.2 ⟨tokens, low⟩ (Vocabulary.any_admitsAll tokens)
    unfold attempts at read
    split at read
    · exact absurd read List.not_mem_nil
    · cases ended : declaration depth ⟨tokens, low⟩ with
      | ok found after =>
        rw [ended] at read
        rcases List.mem_cons.mp read with same | inOthers
        · cases same
          exact declaration_keeps spelled all ended
        · exact later (reads.ok ended).1 inOthers
      | error error after =>
        rw [ended] at read
        rcases List.mem_cons.mp read with same | inOthers
        · cases same
        · -- What the parser goes on with behind an error are still the same tokens.
          exact later (reads.error ended) inOthers

/-- What holds of the tokens is kept throughout every statement of a program that is read from
them. -/
theorem parseProgram_keeps {tokens : List Token} {low high : Reference}
    (all : ∀ token ∈ tokens, holds token) {statements : List Statement}
    (parsed : parseProgram tokens low = (.ok statements, high)) :
    AllKeep holds (statements.map .statement) := by
  obtain ⟨rest, _, derivation, isTokens, rfl, _⟩ := parseProgram_sound parsed
  rw [isTokens] at all
  exact derivation.keeps spelled rest low (Token.all_iff.mpr all)

/-- What holds of the tokens is kept throughout a lone expression that is read from them. -/
theorem parseExpression_keeps {tokens : List Token} {low high : Reference}
    (all : ∀ token ∈ tokens, holds token) {expression : Expression}
    (parsed : parseExpression tokens low = (.ok expression, high)) :
    Throughout (Constituent.Keeps holds) (.expression expression) := by
  obtain ⟨rest, _, derivation, isTokens, rfl, _⟩ := parseExpression_sound parsed
  rw [isTokens] at all
  exact derivation.keeps spelled rest low (Token.all_iff.mpr all) _ List.mem_cons_self

end

end Grammar

end Lox
