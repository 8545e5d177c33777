import ClassDiagram.Proofs.Java.Entries
import ClassDiagram.Proofs.Java.Execution
import ClassDiagram.Proofs.Java.Tokens

/-!
# Accessors that are read

The lines that are written for the accessors of a class are read as methods: a header by its name and its parameter, a
line or a block under a condition as an instruction (`methodsIn`).  The reader knows nothing of the accessors that the
lines come from.  It finds in them what these accessors mean (`methodsIn_accessorLines`), as long as all names are words;
other names make lines that are no Java.
-/

set_option autoImplicit false

namespace ClassDiagram.Java

/-! ## Reading lines -/

/-- The term in a row of tokens. -/
def Term.ofTokens? : List Token → Option Term
  | [.word "this", .mark ".", .word name] => some (.field name)
  | [.word "this"] => some .self
  | [.word "null"] => some .null
  | [.word name] => some (.variable name)
  | _ => none

/-- The test in a row of tokens whether a list contains something. -/
def containment? : List Token → Option Test
  | [.word "this", .mark ".", .word field, .mark ".", .word "contains", .mark "(", .word value, .mark ")"] =>
    (Term.ofTokens? [.word value]).map (.contains field)
  | _ => none

/-- The comparison of two terms in a row of tokens. -/
def comparison? (ts : List Token) : Option Test :=
  match ts.span fun t => t != .mark "==" && t != .mark "!=" with
  | (left, .mark "==" :: right) => do return .same (← Term.ofTokens? left) (← Term.ofTokens? right)
  | (left, .mark "!=" :: right) => do return .different (← Term.ofTokens? left) (← Term.ofTokens? right)
  | _ => none

/-- The test in a row of tokens, if it is not made of two. -/
def simpleTest? : List Token → Option Test
  | .mark "!" :: rest => (containment? rest).map .negated
  | ts => (containment? ts).or (comparison? ts)

/-- The test in a row of tokens. -/
def Test.ofTokens? (ts : List Token) : Option Test :=
  match ts.span (· != .mark "||") with
  | (first, _ :: second) => do return .either (← simpleTest? first) (← simpleTest? second)
  | (only, []) => simpleTest? only

/-- The test in the header of a block. -/
def condition? : List Token → Option Test
  | .word "if" :: .mark "(" :: rest =>
    if rest.getLast? = some (.mark ")") then Test.ofTokens? rest.dropLast else none
  | _ => none

/-- The declaration in a row of tokens, of a variable that gets the value of a field. -/
def declaration? : List Token → Option Instruction
  | [.word _, .word name, .mark "=", .word "this", .mark ".", .word field, .mark ";"] =>
    some (.declare name (.field field))
  | _ => none

/-- The instruction in a row of tokens, if it is no declaration. -/
def simpleInstruction? : List Token → Option Instruction
  | .word "return" :: rest => if rest.getLast? = some (.mark ";") then some .leave else none
  | [.word "this", .mark ".", .word field, .mark "=", .word value, .mark ";"] =>
    (Term.ofTokens? [.word value]).map (.assign field)
  | [.word "this", .mark ".", .word field, .mark ".", .word "add", .mark "(", .word value, .mark ")", .mark ";"] =>
    (Term.ofTokens? [.word value]).map (.add field)
  | [.word "this", .mark ".", .word field, .mark ".", .word "remove", .mark "(", .word value, .mark ")",
      .mark ";"] =>
    (Term.ofTokens? [.word value]).map (.remove field)
  | [.word receiver, .mark ".", .word method, .mark "(", .word argument, .mark ")", .mark ";"] => do
    return .call (← Term.ofTokens? [.word receiver]) method (← Term.ofTokens? [.word argument])
  | _ => none

/-- The instruction in a row of tokens. -/
def Instruction.ofTokens? (ts : List Token) : Option Instruction := (declaration? ts).or (simpleInstruction? ts)

/-- The name and the parameter in the header of a method.  The types in it are not read, since nothing depends on
them, but a method with a parameter returns nothing. -/
def signature? : List Token → Option (String × Option String)
  | .word "public" :: rest =>
    match rest.reverse with
    | .mark ")" :: .mark "(" :: .word name :: _ => some (name, none)
    | .mark ")" :: .word parameter :: _ =>
      match rest with
      | .word "void" :: .word name :: .mark "(" :: _ => some (name, some parameter)
      | _ => none
    | _ => none
  | _ => none

/-! ## Reading blocks -/

mutual

/-- The instruction that a line or a block is. -/
def Entry.instruction? : Entry → Option Instruction
  | .line text => Instruction.ofTokens? (tokens text)
  | .block header body => do return .when (← condition? (tokens header)) (← instructions? body)

/-- The instructions that lines and blocks are. -/
def instructions? : List Entry → Option (List Instruction)
  | [] => some []
  | first :: rest => do return (← first.instruction?) :: (← instructions? rest)

end

/-- The method that a block is. -/
def Entry.method? : Entry → Option Method
  | .line _ => none
  | .block header body => do
    let (name, parameter) ← signature? (tokens header)
    return ⟨name, parameter, ← instructions? body⟩

/-- The methods in lines inside a class. -/
def methodsIn (margin : String) (lines : List String) : Option (List Method) :=
  match readFrom margin [("", [])] [] (lines ++ ["\x7d"]) with
  | some [.block _ entries] => entries.mapM Entry.method?
  | _ => none

/-! ## Lines of accessors -/

/-- The lines that are written for the accessors of the members of a class; empty ones do not count. -/
def accessorLines (margin : String) (table : TypeTable) (members : List AssociationMember) : List String :=
  codeLines margin 1 (members.flatMap (accessorCode table))

/-- The methods in the lines that are written for the accessors of a class; none if they cannot be read. -/
def Settings.methods (s : Settings) (m : Linked) (owner : LinkedType) : List Method :=
  (methodsIn s.indent.margin (accessorLines s.indent.margin s.table (m.associationMembers owner))).getD []

/-- Calls a method of an object by its name, as the lines that are written for its class have it. -/
def invoke (m : Linked) (s : Settings) : Nat → Invocation := invokeWith (s.methods m)

/-! ## What accessors mean -/

/-- The term that an operand is read as. -/
def Operand.term : Operand → Term
  | .newValue => .variable "newValue"
  | .oldValue => .variable "oldValue"
  | .self => .self
  | .null => .null

/-- The test that a condition is read as. -/
def Condition.meaning (field : String) : Condition → Test
  | .fieldIsNew => .same (.field field) (.variable "newValue")
  | .fieldGiven => .different (.field field) .null
  | .newGiven => .different (.variable "newValue") .null
  | .newMissingOrHeld => .either (.same (.variable "newValue") .null) (.contains field (.variable "newValue"))
  | .oldNotHeld => .negated (.contains field (.variable "oldValue"))

mutual

/-- The instruction that a statement is read as. -/
def Statement.meaning (field : String) : Statement → Instruction
  | .leave => .leave
  | .returnField => .leave
  | .returnView => .leave
  | .returnSize => .leave
  | .keepOld _ => .declare "oldValue" (.field field)
  | .assign value => .assign field value.term
  | .add => .add field (.variable "newValue")
  | .remove => .remove field (.variable "oldValue")
  | .call receiver call => .call receiver.term call.method (if call.passesSelf then .self else .null)
  | .when condition body => .when (condition.meaning field) (meanings field body)

/-- The instructions that statements are read as. -/
def meanings (field : String) : List Statement → List Instruction
  | [] => []
  | first :: rest => first.meaning field :: meanings field rest

end

/-- Statements in a row mean what each of them means, in order. -/
theorem meanings_append (field : String) (first second : List Statement) :
    meanings field (first ++ second) = meanings field first ++ meanings field second := by
  induction first with
  | nil => rfl
  | cons s rest ih => rw [List.cons_append, meanings, ih, meanings, List.cons_append]

/-- The method that an accessor is read as. -/
def Accessor.meaning (field : String) (a : Accessor) : Method :=
  ⟨a.name, a.parameter.map (·.2.word), meanings field a.body⟩

mutual

/-- Whether all types and methods that a statement names are of some sort. -/
def Statement.Names (p : String → Prop) : Statement → Prop
  | .keepOld type => p type
  | .call _ call => p call.method
  | .when _ body => NameAll p body
  | .leave | .returnField | .returnView | .returnSize | .assign _ | .add | .remove => True

/-- Whether this holds of statements. -/
def NameAll (p : String → Prop) : List Statement → Prop
  | [] => True
  | s :: rest => s.Names p ∧ NameAll p rest

end

/-! ## What is read of statements -/

section

variable {field : String} (word : isWord field = true)
include word

/-- The field of an object is read as the object, a dot and the name of the field. -/
theorem tokens_fieldText : tokens (fieldText field) = [.word "this", .mark ".", .word field] := by
  have front : tokens "this." = [.word "this", .mark "."] := by decide
  rw [fieldText, tokens_append (areApart_of_last "this." rfl rfl field), front, tokens_word word]
  rfl

/-- The tokens of a field and of what follows it. -/
theorem tokens_fieldText_append (text : String) {c : Char} (head : text.toList.head? = some c)
    (loose : (isWordChar c || isSignChar c) = false) :
    tokens (fieldText field ++ text) = .word "this" :: .mark "." :: .word field :: tokens text := by
  rw [tokens_append (areApart_of_head _ head loose _), tokens_fieldText word]
  rfl

/-- The tokens of a field between two texts that keep apart from it. -/
theorem tokens_around_fieldText (front back : String) {c c' : Char} (last : front.toList.getLast? = some c)
    (loose : (isWordChar c || isSignChar c) = false) (head : back.toList.head? = some c')
    (loose' : (isWordChar c' || isSignChar c') = false) :
    tokens (front ++ fieldText field ++ back) =
      tokens front ++ .word "this" :: .mark "." :: .word field :: tokens back := by
  rw [String.append_assoc, tokens_append (areApart_of_last front last loose _),
    tokens_fieldText_append word back head loose']

/-- A condition is read as what it means. -/
theorem test_condition (condition : Condition) :
    Test.ofTokens? (tokens (condition.text field)) = some (condition.meaning field) := by
  cases condition with
  | fieldIsNew =>
    have all : tokens (Condition.fieldIsNew.text field) =
        [.word "this", .mark ".", .word field, .mark "==", .word "newValue"] :=
      tokens_fieldText_append word " == newValue" rfl rfl
    rw [all]
    rfl
  | fieldGiven =>
    have all : tokens (Condition.fieldGiven.text field) =
        [.word "this", .mark ".", .word field, .mark "!=", .word "null"] :=
      tokens_fieldText_append word " != null" rfl rfl
    rw [all]
    rfl
  | newGiven =>
    have all : tokens "newValue != null" = [.word "newValue", .mark "!=", .word "null"] := by decide
    exact (congrArg Test.ofTokens? all).trans rfl
  | newMissingOrHeld =>
    have all := tokens_around_fieldText word "newValue == null || " ".contains(newValue)" rfl rfl rfl rfl
    exact (congrArg Test.ofTokens? all).trans rfl
  | oldNotHeld =>
    have held := tokens_fieldText_append word ".contains(oldValue)" rfl rfl
    have text : Condition.oldNotHeld.text field =
        "!" ++ (fieldText field ++ ".contains(oldValue)") := String.append_assoc ..
    have apart : AreApart "!" (fieldText field ++ ".contains(oldValue)") := by
      intro c ends c' begins
      obtain rfl : '!' = c := Option.some.inj ends
      obtain rfl : 't' = c' := by simpa [fieldText] using begins
      rfl
    rw [text, tokens_append apart, held]
    rfl

/-- The header of a block under a condition is read as what the condition means. -/
theorem condition_header (condition : Condition) :
    condition? (tokens ("if (" ++ condition.text field ++ ")")) = some (condition.meaning field) := by
  have front : tokens "if (" = [.word "if", .mark "("] := by decide
  have back : tokens ")" = [.mark ")"] := by decide
  rw [tokens_append (areApart_of_head ")" rfl rfl _),
    tokens_append (areApart_of_last "if (" rfl rfl _), front, back]
  change condition? (.word "if" :: .mark "(" :: (tokens (condition.text field) ++ [.mark ")"])) = _
  rw [condition?, List.getLast?_concat, if_pos rfl, List.dropLast_concat, test_condition word]

end

/-- A call is read as a call of the method that it names. -/
theorem instruction_call (receiver : Operand) {call : PartnerCall} (word : isWord call.method = true) :
    Instruction.ofTokens? (tokens (callText receiver call)) =
      some (.call receiver.term call.method (if call.passesSelf then .self else .null)) := by
  let argument : Operand := if call.passesSelf then .self else .null
  have text : callText receiver call = receiver.word ++ "." ++ (call.method ++ ("(" ++ argument.word ++ ");")) := by
    simp only [callText, argument, String.append_assoc]
    cases call.passesSelf <;> rfl
  have front : tokens (receiver.word ++ ".") = [.word receiver.word, .mark "."] := by
    cases receiver <;> decide
  have back : tokens ("(" ++ argument.word ++ ");") = [.mark "(", .word argument.word, .mark ")", .mark ";"] := by
    cases argument <;> decide
  have last : (receiver.word ++ ".").toList.getLast? = some '.' := by
    cases receiver <;> rfl
  have head : ("(" ++ argument.word ++ ");").toList.head? = some '(' := by
    cases argument <;> rfl
  have all : tokens (callText receiver call) = [.word receiver.word, .mark ".", .word call.method, .mark "(",
      .word argument.word, .mark ")", .mark ";"] := by
    rw [text, tokens_append (areApart_of_last _ last rfl _), tokens_append (areApart_of_head _ head rfl _), front,
      tokens_word word, back]
    rfl
  have passed : argument.term = if call.passesSelf then .self else .null := by
    cases given : call.passesSelf <;> simp [argument, given, Operand.term]
  have read : Instruction.ofTokens? [.word receiver.word, .mark ".", .word call.method, .mark "(",
      .word argument.word, .mark ")", .mark ";"] = some (.call receiver.term call.method argument.term) := by
    cases receiver <;> cases argument <;> rfl
  rw [all, read, passed]

section

variable {field : String} (word : isWord field = true)
include word

/-- The line of a statement is read as what the statement means. -/
theorem instruction_line : (s : Statement) → s.Names (isWord · = true) → ∀ text, s.code field = .line text →
    Instruction.ofTokens? (tokens text) = some (s.meaning field)
  | .leave, _, _, rfl => by
    have all : tokens "return;" = [.word "return", .mark ";"] := by decide
    rw [all]
    rfl
  | .returnField, _, _, rfl => by
    rw [tokens_around_fieldText word "return " ";" rfl rfl rfl rfl]
    rfl
  | .returnView, _, _, rfl => by
    rw [tokens_around_fieldText word "return Collections.unmodifiableList(" ");" rfl rfl rfl rfl]
    rfl
  | .returnSize, _, _, rfl => by
    rw [tokens_around_fieldText word "return " ".size();" rfl rfl rfl rfl]
    rfl
  | .keepOld type, legible, _, rfl => by
    have text : type ++ " oldValue = " ++ fieldText field ++ ";" =
        type ++ (" oldValue = " ++ fieldText field ++ ";") := by simp only [String.append_assoc]
    have head : (" oldValue = " ++ fieldText field ++ ";").toList.head? = some ' ' := by simp
    rw [text, tokens_append (areApart_of_head _ head rfl _), tokens_word legible,
      tokens_around_fieldText word " oldValue = " ";" rfl rfl rfl rfl]
    rfl
  | .assign value, _, _, rfl => by
    have text : fieldText field ++ " = " ++ value.word ++ ";" = fieldText field ++ (" = " ++ value.word ++ ";") := by
      simp only [String.append_assoc]
    have head : (" = " ++ value.word ++ ";").toList.head? = some ' ' := by simp
    have rest : tokens (" = " ++ value.word ++ ";") = [.mark "=", .word value.word, .mark ";"] := by
      cases value <;> decide
    rw [text, tokens_fieldText_append word _ head rfl, rest]
    cases value <;> rfl
  | .add, _, _, rfl => by
    have all := tokens_fieldText_append word ".add(newValue);" rfl rfl
    rw [all]
    rfl
  | .remove, _, _, rfl => by
    have all := tokens_fieldText_append word ".remove(oldValue);" rfl rfl
    rw [all]
    rfl
  | .call receiver call, legible, _, rfl => instruction_call receiver legible

example : Instruction.ofTokens? (tokens "this.players.add(newValue);") =
    some (.add "players" (.variable "newValue")) := by
  rfl

/-- A statement on a line is read as one instruction. -/
theorem instructions_of_line {s : Statement} (legible : s.Names (isWord · = true)) {text : String}
    (line : s.code field = .line text) (notEmpty : text.isEmpty = false) :
    instructions? (s.code field).entries = some [s.meaning field] := by
  have alone : full [text] = [text] := full_eq_self (List.forall_mem_singleton.2 notEmpty)
  rw [line, Code.entries, lineEntries, alone, List.map_singleton]
  simp only [instructions?, Entry.instruction?, instruction_line word s legible text line]
  rfl

end

/-- Entries in a row are read as instructions in a row. -/
theorem instructions_append {first second : List Entry} {is is' : List Instruction}
    (read : instructions? first = some is) (read' : instructions? second = some is') :
    instructions? (first ++ second) = some (is ++ is') := by
  induction first generalizing is with
  | nil =>
    obtain rfl := Option.some.inj read
    exact read'
  | cons e rest ih =>
    obtain ⟨i, here, read⟩ := Option.bind_eq_some_iff.1 read
    obtain ⟨later, there, same⟩ := Option.bind_eq_some_iff.1 read
    obtain rfl := Option.some.inj same
    rw [List.cons_append, instructions?, here, ih there]
    rfl

mutual

/-- A statement is read as what it means. -/
theorem instructions_code {field : String} (word : isWord field = true) : (s : Statement) → s.Names (isWord · = true) →
    instructions? (s.code field).entries = some [s.meaning field]
  | .leave, legible => instructions_of_line word legible rfl (by simp)
  | .returnField, legible => instructions_of_line word legible rfl (by simp)
  | .returnView, legible => instructions_of_line word legible rfl (by simp)
  | .returnSize, legible => instructions_of_line word legible rfl (by simp)
  | .keepOld _, legible => instructions_of_line word legible rfl (by simp)
  | .assign _, legible => instructions_of_line word legible rfl (by simp)
  | .add, legible => instructions_of_line word legible rfl (by simp)
  | .remove, legible => instructions_of_line word legible rfl (by simp)
  | .call _ _, legible => instructions_of_line word legible rfl (by simp [callText])
  | .when condition body, legible => by
    have read := instructions_statementCodes word body legible
    rw [Statement.code, Code.entries, Statement.meaning, instructions?, Entry.instruction?,
      condition_header word condition, read]
    rfl

/-- Statements are read as what they mean. -/
theorem instructions_statementCodes {field : String} (word : isWord field = true) : (body : List Statement) →
    NameAll (isWord · = true) body → instructions? (codeEntries (statementCodes field body)) = some (meanings field body)
  | [], _ => rfl
  | s :: rest, legible =>
    instructions_append (instructions_code word s legible.1) (instructions_statementCodes word rest legible.2)

end

/-! ## What is read of accessors -/

/-- Whether an accessor is named by a word, returns nothing if it has a parameter, and names words only. -/
structure Accessor.IsLegible (a : Accessor) : Prop where
  name : isWord a.name = true
  returns : ∀ p, a.parameter = some p → a.returns = voidType
  body : NameAll (isWord · = true) a.body

/-- The header of an accessor is read as its name and its parameter, whatever the types in it are. -/
theorem signature_header {a : Accessor} (legible : a.IsLegible) :
    signature? (tokens a.header) = some (a.name, a.parameter.map (·.2.word)) := by
  obtain ⟨returns, name, parameter, body⟩ := a
  have word : isWord name = true := legible.name
  cases parameter with
  | none =>
    have text : Accessor.header ⟨returns, name, none, body⟩ = "public " ++ (returns ++ (" " ++ (name ++ "()"))) := by
      simp [Accessor.header, String.append_assoc]
    have last : tokens (" " ++ (name ++ "()")) = [.word name, .mark "(", .mark ")"] := by
      rw [tokens_append (areApart_of_last " " rfl rfl _),
        tokens_append (areApart_of_head "()" rfl rfl _), tokens_word word]
      rfl
    have head : (" " ++ (name ++ "()")).toList.head? = some ' ' := by simp
    have all : tokens (Accessor.header ⟨returns, name, none, body⟩) =
        .word "public" :: (tokens returns ++ [.word name, .mark "(", .mark ")"]) := by
      rw [text, tokens_append (areApart_of_last "public " rfl rfl _),
        tokens_append (areApart_of_head _ head rfl _), last]
      rfl
    rw [all, signature?, List.reverse_append]
    rfl
  | some p =>
    obtain ⟨type, operand⟩ := p
    obtain rfl : returns = voidType := legible.returns _ rfl
    have text : Accessor.header ⟨voidType, name, some (type, operand), body⟩ =
        "public void " ++ (name ++ ("(" ++ (type ++ (" " ++ operand.word ++ ")")))) := by
      simp [Accessor.header, voidType, String.append_assoc]
    have last : tokens (" " ++ operand.word ++ ")") = [.word operand.word, .mark ")"] := by
      cases operand <;> decide
    have head : (" " ++ operand.word ++ ")").toList.head? = some ' ' := by simp
    have opens : ("(" ++ (type ++ (" " ++ operand.word ++ ")"))).toList.head? = some '(' := by simp
    have all : tokens (Accessor.header ⟨voidType, name, some (type, operand), body⟩) =
        .word "public" :: .word "void" :: .word name :: .mark "(" ::
          (tokens type ++ [.word operand.word, .mark ")"]) := by
      rw [text, tokens_append (areApart_of_last "public void " rfl rfl _),
        tokens_append (areApart_of_head _ opens rfl _), tokens_word word,
        tokens_append (areApart_of_last "(" rfl rfl _), tokens_append (areApart_of_head _ head rfl _), last]
      rfl
    rw [all, signature?, List.reverse_cons, List.reverse_cons, List.reverse_cons, List.reverse_append]
    rfl

/-- The block of an accessor is read as the method that the accessor is. -/
theorem method_accessor {field : String} (word : isWord field = true) {a : Accessor} (legible : a.IsLegible) :
    (codeEntries (a.code field)).mapM Entry.method? = some [a.meaning field] := by
  have body := instructions_statementCodes word a.body legible.body
  simp only [Accessor.code, codeEntries, Code.entries, List.nil_append, List.append_nil, List.mapM_cons, List.mapM_nil,
    Entry.method?, signature_header legible, body]
  rfl

/-- What is read of the code of each of some items is read, one after the other, of the code of all. -/
theorem mapM_method_flatMap {α : Type} {items : List α} {code : α → List Code} {read : α → List Method}
    (each : ∀ a ∈ items, (codeEntries (code a)).mapM Entry.method? = some (read a)) :
    (codeEntries (items.flatMap code)).mapM Entry.method? = some (items.flatMap read) := by
  induction items with
  | nil => rfl
  | cons a rest ih =>
    obtain ⟨first, later⟩ := List.forall_mem_cons.1 each
    rw [List.flatMap_cons, codeEntries_append, List.mapM_append, first, ih later]
    rfl

/-- The methods that the accessors of a member are read as; none if they cannot be written. -/
def methodsOfMember (table : TypeTable) (d : AssociationMember) : List Method :=
  match memberAccessors table d with
  | .ok accessors => accessors.map (Accessor.meaning d.name)
  | .error _ => []

/-- The methods that the accessors of members are read as. -/
def methodsOf (table : TypeTable) (members : List AssociationMember) : List Method :=
  members.flatMap (methodsOfMember table)

/-- Whether a member and its accessors are named by words. -/
structure IsLegibleMember (table : TypeTable) (d : AssociationMember) : Prop where
  name : isWord d.name = true
  accessors : ∀ accessors, memberAccessors table d = .ok accessors → ∀ a ∈ accessors, a.IsLegible

/-- The code of the accessors of a member is read as what these accessors mean. -/
theorem mapM_method_accessorCode {table : TypeTable} {d : AssociationMember} (legible : IsLegibleMember table d) :
    (codeEntries (accessorCode table d)).mapM Entry.method? = some (methodsOfMember table d) := by
  unfold accessorCode methodsOfMember
  cases emitted : memberAccessors table d with
  | ok accessors =>
    have each := mapM_method_flatMap fun a among =>
      method_accessor legible.name (legible.accessors accessors emitted a among)
    exact each.trans (congrArg some (List.flatMap_pure_eq_map (Accessor.meaning d.name) accessors))
  | error e => rfl

/-- The code of the accessors of members can be read. -/
theorem areReadable_accessorCode (table : TypeTable) (members : List AssociationMember) :
    AreReadable (members.flatMap (accessorCode table)) := by
  refine areReadable_iff.2 fun code there => ?_
  obtain ⟨d, -, there⟩ := List.mem_flatMap.1 there
  unfold accessorCode at there
  split at there
  · obtain ⟨a, -, there⟩ := List.mem_flatMap.1 there
    rcases List.mem_pair.1 there with rfl | rfl
    · exact trivial
    · exact areReadable_statementCodes d.name a.body
  · obtain rfl := List.mem_singleton.1 there
    exact trivial

/-- The lines that are written for the accessors of members are read as what these accessors mean. -/
theorem methodsIn_accessorLines {table : TypeTable} {members : List AssociationMember}
    (legible : ∀ d ∈ members, IsLegibleMember table d) (margin : String) :
    methodsIn margin (accessorLines margin table members) = some (methodsOf table members) := by
  have inside : readFrom margin [("", [])] [] (accessorLines margin table members ++ ["\x7d"]) =
      readFrom margin [("", [])] (codeEntries (members.flatMap (accessorCode table))) ["\x7d"] :=
    readFrom_codeLines _ (areReadable_accessorCode table members)
  have closed : readFrom margin [("", [])] (codeEntries (members.flatMap (accessorCode table))) ["\x7d"] =
      some [.block "" (codeEntries (members.flatMap (accessorCode table)))] := readFrom_brace
  rw [methodsIn, inside, closed]
  exact mapM_method_flatMap fun d member => mapM_method_accessorCode (legible d member)

end ClassDiagram.Java
