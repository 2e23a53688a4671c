/-!
# Kinds of syntax tree nodes

The kinds that matter for finding, judging and editing markup have a constructor each. All others
keep their name.
-/

namespace Retouch

/-- The syntactic forms of functions. -/
inductive FunctionForm where
  | arrow
  | plain
  | declaration
  | expression
  | generator
  | generatorDeclaration
  | method
  deriving DecidableEq

/-- What a node of a syntax tree is. -/
inductive Kind where
  /-- An element with an opening and a closing tag, or a fragment written with empty tags. -/
  | element
  /-- An element whose only tag closes itself. -/
  | selfClosing
  /-- A fragment, in the trees of older grammars. -/
  | fragment
  | openingTag
  | closingTag
  | attribute
  /-- An expression between braces, in an attribute or among children. -/
  | container
  /-- Literal text among children. -/
  | text
  /-- A character reference such as `&amp;`. -/
  | reference
  | comment
  | parentheses
  | string
  /-- An escape sequence inside a string. -/
  | escape
  | template
  /-- An expression inside a template. -/
  | substitution
  | ternary
  | call
  | member
  | arguments
  | sequence
  | array
  | binary
  | returnStatement
  | function (form : FunctionForm)
  /-- The sign between the name and the value of an attribute. -/
  | equals
  /-- Source code that the grammar does not cover. -/
  | error
  | other (name : String)
  deriving DecidableEq

/-- The name of a form of function in syntax trees. -/
def FunctionForm.name : FunctionForm → String
  | .arrow => "arrow_function"
  | .plain => "function"
  | .declaration => "function_declaration"
  | .expression => "function_expression"
  | .generator => "generator_function"
  | .generatorDeclaration => "generator_function_declaration"
  | .method => "method_definition"

namespace Kind

/-- The name of a kind in syntax trees. -/
def name : Kind → String
  | .element => "jsx_element"
  | .selfClosing => "jsx_self_closing_element"
  | .fragment => "jsx_fragment"
  | .openingTag => "jsx_opening_element"
  | .closingTag => "jsx_closing_element"
  | .attribute => "jsx_attribute"
  | .container => "jsx_expression"
  | .text => "jsx_text"
  | .reference => "html_character_reference"
  | .comment => "comment"
  | .parentheses => "parenthesized_expression"
  | .string => "string"
  | .escape => "escape_sequence"
  | .template => "template_string"
  | .substitution => "template_substitution"
  | .ternary => "ternary_expression"
  | .call => "call_expression"
  | .member => "member_expression"
  | .arguments => "arguments"
  | .sequence => "sequence_expression"
  | .array => "array"
  | .binary => "binary_expression"
  | .returnStatement => "return_statement"
  | .function form => form.name
  | .equals => "="
  | .error => "ERROR"
  | .other name => name

/-- The kinds with a name of their own. -/
def known : List Kind := [
  .element, .selfClosing, .fragment, .openingTag, .closingTag, .attribute, .container, .text, .reference,
  .comment, .parentheses, .string, .escape, .template, .substitution, .ternary, .call, .member,
  .arguments, .sequence, .array, .binary, .returnStatement, .function .arrow, .function .plain,
  .function .declaration, .function .expression, .function .generator, .function .generatorDeclaration,
  .function .method, .equals, .error]

/-- The kind that has a name. -/
def ofName (name : String) : Kind :=
  (known.find? (·.name == name)).getD (.other name)

/-- Elements and fragments. -/
def isMarkup : Kind → Bool
  | .element | .selfClosing | .fragment => true
  | _ => false

/-- Functions of all forms. -/
def isFunction : Kind → Bool
  | .function _ => true
  | _ => false

end Kind

/-- The parts that a node can be for its parent, as far as they matter here. -/
inductive Field where
  | name
  | function
  | property
  | operator
  | condition
  | consequence
  | alternative
  | other (label : String)
  deriving DecidableEq

namespace Field

/-- The field that has a label. -/
def ofLabel : String → Field
  | "name" => .name
  | "function" => .function
  | "property" => .property
  | "operator" => .operator
  | "condition" => .condition
  | "consequence" => .consequence
  | "alternative" => .alternative
  | label => .other label

end Field

end Retouch
