import FactoryHub.Lib.KeyTree
import Mathlib.Data.String.Basic

/-!
# The nodes of the configuration

`YamlConfigurationNode` of `config/yaml_node.h`, and what `yaml.cpp` reads into the nodes. A tree of
nodes maps the path elements to the children, as `std::map` does. A node is named after its key, the root
"root". Where the source throws, the tree is left as it is then.

What the streams extract from a text is not modelled: `Conversions` stands for it.
-/

namespace FactoryHub.Config

open Lib

/-! ## Texts -/

/-- `str_split`. -/
def strSplit (s : String) (delim : Char := '/') : List String :=
  ((s.toList.splitOn delim).map String.ofList).filter (· ≠ "")

/-- `convert` to a number. -/
structure Conversions where
  uint : String → Option ℕ
  int : String → Option ℤ
  /-- Whether the text is a float, an infinity or a NaN. -/
  float : String → Bool

/-- `IsFlexibleCase`. -/
def isFlexibleCase (s : String) : Bool :=
  match s.toList with
  | [] => true
  | c :: rest =>
      (c :: rest).all Char.isLower ||
        c.isUpper && (rest.all Char.isLower || rest.all Char.isUpper)

/-- `convert` to a bool. -/
def convertBool (input : String) : Option Bool :=
  let names := [("y", "n"), ("yes", "no"), ("true", "false"), ("on", "off")]
  if isFlexibleCase input then
    if input.toLower ∈ names.map Prod.fst then some true
    else if input.toLower ∈ names.map Prod.snd then some false
    else none
  else none

/-! ## Nodes -/

/-- `YamlConfigurationNode::Type`. -/
inductive NodeType where
  | none | uint32 | int32 | float | bool | string | map | sequence | unknown
  deriving DecidableEq, Repr

/-- The members of a node, beside its name and its children. -/
structure NodeData where
  type : NodeType := .none
  scalarValue : String := ""
  listValues : List String := []
  deriving DecidableEq, Repr

abbrev YamlConfigurationNode := KeyTree String NodeData

/-- What the code throws. -/
inductive Error where
  | entryNotFound (path : String)
  | nonLeaf (path : String)
  | eraseNonLeaf
  | isList (name : String)
  | valueOrType (name : String)
  | overwriteScalarValue (name : String)
  | overwriteScalar (name : String)
  | invalidPort
  | portOutOfRange (port : ℕ)
  | invalidFrame (frame : String)
  | noHostFile
  | cannotWriteHostFile
  deriving DecidableEq, Repr

/-- The text of an exception. -/
def Error.what : Error → String
  | .entryNotFound path => "Config value for '" ++ path ++ "' not found"
  | .nonLeaf path => "YamlConfig: cannot set value on non-leaf path node " ++ path
  | .eraseNonLeaf => "YamlConfig: cannot erase non-leaf value"
  | .isList name => "YamlConfiguration: value of " ++ name ++ " is a list"
  | .valueOrType name => "YamlConfig: value or type error on " ++ name
  | .overwriteScalarValue name =>
      "YamlConfig: cannot overwrite scalar value " ++ name ++ " with non-scalar"
  | .overwriteScalar name => "YamlConfig: scalar " ++ name ++ " cannot be overwritten by non-scalar"
  | .invalidPort => "YamlConfig: Invalid TCP/UDP port number (not an unsigned int)"
  | .portOutOfRange port =>
      "YamlConfig: Invalid TCP/UDP port number (" ++ toString port ++ " out of allowed range)"
  | .invalidFrame frame => "YamlConfig: " ++ frame ++ " is not a valid frame ID"
  | .noHostFile => "YamlConfig: no host config file specified"
  | .cannotWriteHostFile => "YamlConfig: cannot write host file"

namespace NodeData

variable (conv : Conversions) (name : String) (d : NodeData)

/-- `is_scalar`. -/
def isScalar : Bool := d.type ∈ [.uint32, .int32, .float, .bool, .string]

/-- `is_type`. -/
def isType {α : Type} (convert : String → Option α) : Bool :=
  if d.type = .sequence then
    match d.listValues with
    | [] => false
    | text :: _ => (convert text).isSome
  else (convert d.scalarValue).isSome

/-- `get_value`. -/
def getValue {α : Type} (convert : String → Option α) : Except Error α :=
  if d.type = .sequence then .error (.isList name)
  else
    match convert d.scalarValue with
    | some v => .ok v
    | none => .error (.valueOrType name)

/-- `convert` of a float, but for its value. -/
def convertFloat (input : String) : Option Unit := if conv.float input then some () else none

/-- `determine_scalar_type`. -/
def determineScalarType : Except Error NodeType :=
  if d.isType conv.uint then
    match d.getValue name conv.int with
    | .ok v => .ok (if v ≥ 0 then .uint32 else .int32)
    | .error e => .error e
  else if d.isType conv.int then .ok .int32
  else if d.isType (convertFloat conv) then .ok .float
  else if d.isType convertBool then .ok .bool
  else if d.isType some then .ok .string
  else .ok .unknown

/-- `set_scalar`. The text is set when the type is determined. -/
def setScalar (s : String) : NodeData × Option Error :=
  let d := { d with scalarValue := s }
  match d.determineScalarType conv name with
  | .ok type => ({ d with type }, none)
  | .error e => (d, some e)

/-- `set_scalar_list`. -/
def setScalarList (s : List String) : NodeData := { d with listValues := s, type := .sequence }

/-- What `add_child` does to the parent. -/
def addsChild : NodeData := { d with type := .map }

end NodeData

namespace YamlConfigurationNode

variable (conv : Conversions)

/-- `YamlConfigurationNode()`. -/
def new : YamlConfigurationNode := .leaf { type := .unknown }

/-- The name of the node at a path. -/
def nameAt (pel : List String) : String := pel.getLast?.getD "root"

/-- `find`, from the node at `path` on. -/
def findFrom (path : String) : List String → YamlConfigurationNode → Except Error YamlConfigurationNode
  | [], n => .ok n
  | pel :: q, .node _ children =>
      match SortedMap.get pel children with
      | some n => findFrom (path ++ "/" ++ pel) q n
      | none => .error (.entryNotFound (path ++ "/" ++ pel))

def find (path : String) (n : YamlConfigurationNode) : Except Error YamlConfigurationNode :=
  findFrom "" (strSplit path) n

/-- `find_or_insert`, but for the node that it returns. -/
def findOrInsert (path : String) (n : YamlConfigurationNode) : YamlConfigurationNode :=
  n.insertPath {} NodeData.addsChild (strSplit path)

/-- The action of `set_value` and `set_list` on the node that was found or inserted. -/
def setLeaf (path : String) (set : NodeData → NodeData × Option Error) (n : YamlConfigurationNode) :
    YamlConfigurationNode × Option Error :=
  let pel := strSplit path
  let n := findOrInsert path n
  let found := (KeyTree.find pel n).getD (.leaf {})
  if found.hasChildren then (n, some (.nonLeaf path))
  else (n.modify (fun d => (set d).1) pel, (set found.data).2)

/-- `set_value`, of a value with this text. -/
def setValue (path s : String) : YamlConfigurationNode → YamlConfigurationNode × Option Error :=
  setLeaf path fun d => d.setScalar conv (nameAt (strSplit path)) s

/-- `set_list`, of values with these texts. -/
def setList (path : String) (s : List String) :
    YamlConfigurationNode → YamlConfigurationNode × Option Error :=
  setLeaf path fun d => (d.setScalarList s, none)

def erase (path : String) (n : YamlConfigurationNode) : YamlConfigurationNode × Option Error :=
  match find path n with
  | .error e => (n, some e)
  | .ok found =>
      if found.hasChildren then (n, some .eraseNonLeaf) else (KeyTree.erase (strSplit path) n, none)

/-- `get_value_as`. -/
def getValueAs {α : Type} (path : String) (convert : String → Option α) (root : YamlConfigurationNode) :
    Except Error α :=
  match find path root with
  | .error e => .error e
  | .ok n =>
      if n.hasChildren then .error (.entryNotFound path)
      else n.data.getValue (nameAt (strSplit path)) convert

/-! ## Adding -/

/-- A child is there in the map, without `add_child`. -/
def setChild (n : YamlConfigurationNode) (name : String) (child : YamlConfigurationNode) :
    YamlConfigurationNode :=
  .node n.data (SortedMap.set name child n.children)

mutual

/-- The part of `operator+=` after `add_to` was found. -/
def addTo (name : String) (add_to : YamlConfigurationNode) :
    YamlConfigurationNode → Except Error YamlConfigurationNode
  | .node d children =>
      if add_to.data.isScalar then
        if d.isScalar then
          match add_to.data.setScalar conv name d.scalarValue with
          | (data, none) => .ok (.node data add_to.children)
          | (_, some e) => .error e
        else .error (.overwriteScalarValue name)
      else addChildren name add_to children

/-- `operator+=` of each child of a node. -/
def addChildren (name : String) (add_to : YamlConfigurationNode) :
    List (String × YamlConfigurationNode) → Except Error YamlConfigurationNode
  | [] => .ok add_to
  | (key, n) :: children =>
      if key = "root" then
        match addTo name add_to n with
        | .ok add_to => addChildren name add_to children
        | .error e => .error e
      else
        -- the copy of a node has no children
        let child := (SortedMap.get key add_to.children).getD (.leaf n.data)
        match addTo key child n with
        | .ok child => addChildren name (add_to.setChild key child) children
        | .error e => .error e

end

/-- `operator+=` of a root. -/
def addAssign (n other : YamlConfigurationNode) : Except Error YamlConfigurationNode :=
  addTo conv "root" n other

end YamlConfigurationNode

/-! ## Documents -/

/-- The tags that are checked. That of a URL is not among them: the expression of URLs fits every text. -/
inductive Tag where
  | other | port | frame
  deriving DecidableEq, Repr

/-- A document or a part of one, as `yaml-cpp` loads it. The items of a sequence are texts. -/
inductive Doc where
  | null
  | scalar (tag : Tag) (s : String)
  | sequence (items : List String)
  | map (entries : List (String × Doc))

/-- `Scalar`. -/
def Doc.scalarText : Doc → String
  | .scalar _ s => s
  | _ => ""

def Doc.isScalar : Doc → Bool
  | .scalar _ _ => true
  | _ => false

/-- `FRAME_REGEX`. -/
def isFrame (s : String) : Bool :=
  match s.toList.splitOn '/' with
  | [] :: pel :: pels =>
      (pel :: pels).all fun
        | [] => false
        | c :: rest =>
            (c.isAlpha || c = '_') && rest.all fun c => c.isAlphanum || c = '_' || c = '-'
  | _ => false

namespace YamlConfigurationNode

variable (conv : Conversions)

/-- `YamlConfigurationNode` of a name and a document. -/
def ofDoc (name : String) : Doc → Except Error NodeData
  | .null => .ok { type := .none }
  | .scalar _ s =>
      let d : NodeData := { type := .unknown, scalarValue := s }
      match d.determineScalarType conv name with
      | .ok type => .ok { d with type }
      | .error e => .error e
  | .sequence items => .ok { type := .sequence, listValues := items }
  | .map _ => .ok { type := .map }

/-- The checks of a scalar by its tag. -/
def checkScalar (tag : Tag) (s : String) (node : YamlConfigurationNode) : Except Error Unit :=
  match tag with
  | .port =>
      match node.data.getValue "" conv.uint with
      | .ok p => if p = 0 ∨ p ≥ 65535 then .error (.portOutOfRange p) else .ok ()
      | .error _ => .error .invalidPort
  | .frame => if isFrame s then .ok () else .error (.invalidFrame s)
  | .other => .ok ()

/-- The walk to the insertion node of a key that is a path. -/
def insertAt (insert : YamlConfigurationNode → Except Error YamlConfigurationNode) :
    List String → YamlConfigurationNode → Except Error YamlConfigurationNode
  | [], node => insert node
  | pel :: q, .node d children =>
      match SortedMap.get pel children with
      | some n => (insertAt insert q n).map fun n => .node d (SortedMap.set pel n children)
      | none =>
          (insertAt insert q (.leaf {})).map fun n =>
            .node d.addsChild (SortedMap.set pel n children)

mutual

/-- `read_config_doc`. -/
def readConfigDoc : Doc → YamlConfigurationNode → Except Error YamlConfigurationNode
  | .map entries, node => readEntries entries node
  | .scalar tag s, node => (checkScalar conv tag s node).map fun _ => node
  | .null, node | .sequence _, node => .ok node

/-- The loop of `read_config_doc` over the entries of a map. -/
def readEntries : List (String × Doc) → YamlConfigurationNode → Except Error YamlConfigurationNode
  | [], node => .ok node
  | (key, value) :: entries, node =>
      let pel := if '/' ∈ key.toList then strSplit key else [key]
      let key := pel.getLast?.getD ""
      let insert : YamlConfigurationNode → Except Error YamlConfigurationNode
        | .node d children =>
            match SortedMap.get key children with
            | some (.node dTmp grandchildren) =>
                if dTmp.isScalar && !value.isScalar then .error (.overwriteScalar key)
                else
                  match dTmp.setScalar conv key value.scalarText with
                  | (dTmp, none) => .ok (.node d (SortedMap.set key (.node dTmp grandchildren) children))
                  | (_, some e) => .error e
            | none =>
                match ofDoc conv key value with
                | .ok dTmp =>
                    match readConfigDoc value (.leaf dTmp) with
                    | .ok tmp => .ok (.node d.addsChild (SortedMap.set key tmp children))
                    | .error e => .error e
                | .error e => .error e
      match insertAt insert pel.dropLast node with
      | .ok node => readEntries entries node
      | .error e => .error e

end

mutual

/-- `emit`, of a node with children. -/
def emit : YamlConfigurationNode → Doc
  | .node _ children => .map (emitChildren children)

def emitChildren : List (String × YamlConfigurationNode) → List (String × Doc)
  | [] => []
  | (key, n) :: children =>
      (key, if n.hasChildren then emit n else .scalar .other n.data.scalarValue) ::
        emitChildren children

end

end YamlConfigurationNode

end FactoryHub.Config
