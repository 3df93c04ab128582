-- From the tokens of a template to its pieces: tags that open a part are matched with the
-- tags that close it.
import StoreClient.Template.Token

namespace StoreClient

namespace Template

namespace Lexeme

/-- A single value. -/
def toOperand? : Lexeme → Option Operand
  | operand value => some value
  | bare root => some (.path root [])
  | _ => none

/-- The values after a filter's name: a colon, then values with commas between them. -/
def arguments? : List Lexeme → Option (List Operand × List Lexeme)
  | colon :: l :: rest =>
    match l.toOperand? with
    | none => none
    | some value => (more? rest).map fun (values, rest) => (value :: values, rest)
  | colon :: [] => none
  | rest => some ([], rest)
where
  more? : List Lexeme → Option (List Operand × List Lexeme)
    | comma :: l :: rest =>
      match l.toOperand? with
      | none => none
      | some value => (more? rest).map fun (values, rest) => (value :: values, rest)
    | [comma] => none
    | rest => some ([], rest)

end Lexeme

/-- The filter of a name. -/
def Filter.ofName? (name : String) (arguments : List Operand) : Option Filter :=
  match arguments with
  | [] =>
    if name = "join" then some (join (.literal (.text " ")))
    else if name = "upcase" then some upcase
    else if name = "downcase" then some downcase
    else none
  | [separator] => if name = "join" then some (join separator) else none
  | _ => none

/-- The filters after a value. The first number bounds the calls. -/
def Filter.ofLexemes? : Nat → List Lexeme → Option (List Filter)
  | _, [] => some []
  | fuel + 1, .bar :: .bare name :: rest =>
    match Lexeme.arguments? rest with
    | none => none
    | some (arguments, rest) =>
      match ofName? name arguments, ofLexemes? fuel rest with
      | some filter, some filters => some (filter :: filters)
      | _, _ => none
  | _, _ => none

namespace Node

/-- What a place is filled with. -/
def ofOutput? : List Lexeme → Option Node
  | [] => none
  | l :: rest =>
    match l.toOperand?, Filter.ofLexemes? rest.length rest with
    | some value, some filters => some (.output value filters)
    | _, _ => none

/-- How a list of pieces ends: with the text, or with a tag that opens none. -/
structure Ending where
  tag : Option (String × List Lexeme)
  rest : List Token

/-- The value of a condition. -/
def condition? : List Lexeme → Option Operand
  | [l] => l.toOperand?
  | _ => none

mutual

/-- The pieces up to the end or to a tag that opens none. The first number bounds the calls. -/
def pieces? : Nat → List Token → Option (List Node × Ending)
  | 0, _ => none
  | _ + 1, [] => some ([], ⟨none, []⟩)
  | fuel + 1, .plain chars :: rest =>
    (pieces? fuel rest).map fun (nodes, ending) => (.text (String.ofList chars) :: nodes, ending)
  | fuel + 1, .output lexemes :: rest =>
    match ofOutput? lexemes, pieces? fuel rest with
    | some node, some (nodes, ending) => some (node :: nodes, ending)
    | _, _ => none
  | fuel + 1, .tag name lexemes :: rest =>
    let opened : Option (Option (Node × List Token)) :=
      if name = "if" then some (choice? fuel lexemes rest)
      else if name = "unless" then some (exception? fuel lexemes rest)
      else if name = "for" then some (loop? fuel lexemes rest)
      else none
    match opened with
    | none => some ([], ⟨some (name, lexemes), rest⟩)
    | some none => none
    | some (some (node, rest)) =>
      (pieces? fuel rest).map fun (nodes, ending) => (node :: nodes, ending)

/-- The part after an `else` up to a closing tag, or nothing before the closing tag. -/
def otherwise? (closing : String) : Nat → Ending → Option (List Node × List Token)
  | 0, _ => none
  | fuel + 1, ending =>
    match ending.tag with
    | some (name, []) =>
      if name = closing then some ([], ending.rest)
      else if name = "else" then
        match pieces? fuel ending.rest with
        | some (nodes, ⟨some (name, []), rest⟩) =>
          if name = closing then some (nodes, rest) else none
        | _ => none
      else none
    | _ => none

/-- A choice after its condition has begun. -/
def choice? : Nat → List Lexeme → List Token → Option (Node × List Token)
  | 0, _, _ => none
  | fuel + 1, lexemes, rest =>
    match condition? lexemes, pieces? fuel rest with
    | some condition, some (kept, ending) =>
      match ending.tag with
      | some ("elsif", lexemes) =>
        (choice? fuel lexemes ending.rest).map fun (node, rest) =>
          (.choice condition kept [node], rest)
      | _ =>
        (otherwise? "endif" fuel ending).map fun (other, rest) =>
          (.choice condition kept other, rest)
    | _, _ => none

/-- A choice that keeps its first part unless the condition holds. -/
def exception? : Nat → List Lexeme → List Token → Option (Node × List Token)
  | 0, _, _ => none
  | fuel + 1, lexemes, rest =>
    match condition? lexemes, pieces? fuel rest with
    | some condition, some (kept, ending) =>
      (otherwise? "endunless" fuel ending).map fun (other, rest) =>
        (.choice condition other kept, rest)
    | _, _ => none

/-- A loop over the items of a value. -/
def loop? : Nat → List Lexeme → List Token → Option (Node × List Token)
  | 0, _, _ => none
  | fuel + 1, lexemes, rest =>
    match lexemes with
    | [.bare variableName, .bare "in", items] =>
      match items.toOperand?, pieces? fuel rest with
      | some items, some (body, ending) =>
        (otherwise? "endfor" fuel ending).map fun (other, rest) =>
          (.loop variableName items body other, rest)
      | _, _ => none
    | _ => none

end

end Node

/-- The template of a text. -/
def ofText (text : String) : Except TemplateFault Template :=
  match Token.ofText? text.toList with
  | none => .error .unreadable
  | some tokens =>
    match Node.pieces? (3 * tokens.length + 3) tokens with
    | some (nodes, ⟨none, _⟩) => .ok nodes
    | _ => .error .unreadable

end Template

end StoreClient
