import DialogueTree.Node.Basic
import DialogueTree.Text.Quoted

/-!
# Listings of node contents

The content of a node written out in one line, with the names of its fields and all texts quoted,
as messages show it.

* `Content.listing`: the line.
-/

namespace DialogueTree

/-- Fields between braces after a name. -/
def listFields (name : String) (fields : List (String × String)) : String :=
  name ++ " \x7b " ++ ", ".intercalate (fields.map fun f => f.1 ++ ": " ++ f.2) ++ " \x7d"

/-- A truth value in a listing. -/
def listBool (b : Bool) : String := if b then "true" else "false"

namespace Speaker

/-- A speaker in a listing. -/
def listing (s : Speaker) : String :=
  let sprite := match s.sprite with
    | some handle => "Some(SpriteRef(" ++ Text.quote handle ++ "))"
    | none => "None"
  listFields "Speaker" [("name", Text.quote s.name), ("sprite", sprite)]

/-- A speaker or none in a listing. -/
def optionListing : Option Speaker → String
  | some s => "Some(" ++ s.listing ++ ")"
  | none => "None"

end Speaker

namespace ValueType

/-- A type in a listing. -/
def listing : ValueType → String
  | .bool => "Bool"
  | .int => "Int"
  | .float => "Float"
  | .text => "String"

end ValueType

/-- The slots of a literal operand in a listing. -/
def Slots.listing (s : Slots) : String :=
  listFields "OperandLiteral"
    [("bool_val", listBool s.bool), ("int_val", toString s.int.toInt),
      ("float_val", Layout.marked.text s.float), ("string_val", Text.quote s.text)]

/-- A comparison in a listing. -/
def Comparison.listing : Comparison → String
  | .equals => "Equals"
  | .notEquals => "NotEquals"
  | .greater => "Greater"
  | .greaterOrEqual => "GreaterOrEqual"
  | .less => "Less"
  | .lessOrEqual => "LessOrEqual"
  | .and => "And"
  | .or => "Or"

/-- A change in a listing. -/
def Change.listing : Change → String
  | .set => "Set"
  | .add => "Add"
  | .subtract => "Subtract"
  | .multiply => "Multiply"
  | .divide => "Divide"

/-- A content in one line. -/
def Content.listing : Content → String
  | .info s => listFields "Info" [("speaker", s.listing)]
  | .start id => listFields "Start" [("start_id", toString id.toInt)]
  | .finish => "End"
  | .dialogue text override =>
    listFields "Dialogue"
      [("text", Text.quote text), ("advanced", Speaker.optionListing override)]
  | .branch inPins outPins =>
    listFields "Branch" [("in_pins", toString inPins), ("out_pins", toString outPins)]
  | .variable position type isGlobal =>
    listFields "Variable"
      [("var_index", toString position), ("var_type", type.listing),
        ("is_global", listBool isGlobal)]
  | .logic type comparison a b =>
    listFields "Logic"
      [("var_type", type.listing), ("equation", comparison.listing), ("a", a.listing),
        ("b", b.listing)]
  | .edit type change b =>
    listFields "EditVariable"
      [("var_type", type.listing), ("equation", change.listing), ("b", b.listing)]
  | .comment text => listFields "Comment" [("text", Text.quote text)]
  | .newSpeaker s => listFields "NewSpeaker" [("speaker", s.listing)]
  | .startChange id => listFields "StartChange" [("start_id", toString id.toInt)]
  | .teleport isIn id =>
    listFields "TeleportFlow" [("is_in", listBool isIn), ("teleport_id", toString id.toInt)]

end DialogueTree
