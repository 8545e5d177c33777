import ClassDiagram.Model.Traversal
import ClassDiagram.Report.Basic

/-!
# Reports of models

A model told as a document: its packages, types and members with all that they declare.  References are
documents already, and a value may be given in the place of one that the model has.
-/

set_option autoImplicit false

namespace ClassDiagram.Report

/-- What is told of a field of an element in the place of the value in the model. -/
abbrev Given (ι : Type) := ι → String → Document → Document

variable {ι : Type}

namespace Given

/-- The name of an element. -/
def name (g : Given ι) (place : ι) (own : String) : Document := g place "name" (.text own)

/-- A truth value of an element. -/
def flag (g : Given ι) (place : ι) (field : String) (own : Bool) : Document :=
  g place field (.bool own)

end Given

/-- A visibility, if there is one. -/
def visibility (v : Option Visibility) : Document := optional (fun v => .text v.word) v

/-- A property or an end. -/
def property (g : Given ι) (p : Property ι Document) : Document :=
  record [("name", g.name p.place p.name), ("type", p.type.getD .null), ("lower", p.lower.document),
    ("upper", p.upper.document), ("many", .bool p.isList), ("visibility", visibility p.visibility),
    ("static", g.flag p.place "is_static" p.isStatic), ("aggregation", .text p.aggregation.word)]

/-- An operation. -/
def operation (g : Given ι) (o : Operation ι Document) : Document :=
  record [("name", g.name o.place o.name), ("type", o.type.getD .null), ("lower", o.lower.document),
    ("upper", o.upper.document),
    ("params", each (fun r => .list [g.name r.place r.name, r.type.getD .null]) o.parameters),
    ("visibility", visibility o.visibility), ("static", g.flag o.place "is_static" o.isStatic),
    ("abstract", g.flag o.place "is_abstract" o.isAbstract), ("description", o.description),
    ("content", o.content)]

/-- What a type declares, by its kind. -/
def body (g : Given ι) (place : ι) : Body ι Document → List (String × Document)
  | .classBody c =>
    [("abstract", g.flag place "is_abstract" c.isAbstract),
      ("hasAbstractOperations", .bool c.declaresAbstract), ("superClasses", .list c.superClasses),
      ("superInterfaces", .list c.superInterfaces), ("operations", each (operation g) c.operations),
      ("properties", each (property g) c.properties)]
  | .interface c =>
    [("superInterfaces", .list c.superInterfaces), ("operations", each (operation g) c.operations),
      ("properties", each (property g) c.properties)]
  | .datatype properties => [("properties", each (property g) properties)]
  | .primitive => []
  | .enumeration literals => [("literals", g place "literals" (.list (literals.map .text)))]
  | .association ends => [("ends", each (property g) ends)]

/-- A type. -/
def classifier (g : Given ι) (t : Classifier ι Document) : Document :=
  record ([("kind", .text t.kind.word), ("name", g.name t.place t.name)] ++ body g t.place t.body)

mutual

/-- A package and all that it holds. -/
def package (g : Given ι) : Package ι Document → Document
  | ⟨place, name, inner, types⟩ =>
    record [("name", g.name place name), ("packages", .list (packages g inner)),
      ("types", each (classifier g) types)]

/-- Packages and all that they hold. -/
def packages (g : Given ι) : List (Package ι Document) → List Document
  | [] => []
  | p :: rest => package g p :: packages g rest

end

/-- A model. -/
def model (g : Given ι) (m : Model ι Document) : Document :=
  record [("packages", .list (packages g m.packages))]

/-- A reference: its name and what it leads to. -/
def link (l : Link) : Document := .list [.text l.name, keyIfAny (l.target.map (·.key))]

/-- A linked model. -/
def linked (m : Linked) : Document :=
  model (fun _ _ own => own) (m.model.map id fun _ _ _ l => link l)

end ClassDiagram.Report
