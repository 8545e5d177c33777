import ClassDiagram.Draft.View
import ClassDiagram.Report.Model

/-!
# Reports of drafts

A draft told as a document: what is in the tree and what was given beside it, where references lead, and the
index of names.
-/

set_option autoImplicit false

namespace ClassDiagram.Report

open Draft

/-- An element of a draft. -/
def origin (d : Draft) (o : Origin) : Document := key (d.key o)

/-- A holder of a draft. -/
def holder (d : Draft) : Holder → Document
  | .model => key (.inside [])
  | .element o => origin d o

/-- What a name of a draft leads to. -/
def entry (d : Draft) (e : Entry) : Document := origin d e.origin

/-- A reference of a draft, or none. -/
def pointer (d : Draft) (positions : Positions) (h : Handle) (field : RefField) (_ : Nat)
    (p : Pointer) : Document :=
  if p.isAbsent then .null
  else .list [p.name, keyIfAny ((d.targetOf h.origin field p).map (d.holderKey positions))]

/-- A draft as it is now. -/
def draft (d : Draft) : Document :=
  let given (h : Handle) (field : String) (own : Document) : Document :=
    (d.given? (.element h.origin) field).getD own
  model given (d.model.map id (pointer d d.positions))

/-- Elements of a draft. -/
def handles (d : Draft) (positions : Positions) (hs : List Handle) : Document :=
  each (fun h => key (d.keyIn positions h.origin)) hs

/-- All that there is in the tree of a draft, by sort. -/
def contents (d : Draft) : Document :=
  let positions := d.positions
  let ofKind (kind : Kind) : Document := handles d positions ((d.model.ofKind kind).map (·.place))
  record [("packages", handles d positions (d.model.allPackages.map (·.place))),
    ("types", handles d positions (d.model.types.map (·.place))),
    ("elements", handles d positions (d.model.elements.map (·.place))),
    ("classes", ofKind .classKind), ("interfaces", ofKind .interface),
    ("associations", ofKind .association)]

/-- A name in an index, as it was given. -/
def indexedName (i : Index) (name : String) : Document := (i.labels.lookup name).getD (.text name)

mutual

/-- A node of an index. -/
def node (d : Draft) (i : Index) : NameTree Entry → Document
  | ⟨name, children, types⟩ =>
    record [("name", indexedName i name), ("children", .list (nodes d i children)),
      ("types", each (fun (n, es) => .list [indexedName i n, each (entry d) es]) types)]

/-- Nodes of an index. -/
def nodes (d : Draft) (i : Index) : List (NameTree Entry) → List Document
  | [] => []
  | t :: rest => node d i t :: nodes d i rest

end

/-- An index of names. -/
def index (d : Draft) (i : Index) : Document := node d i i.tree

end ClassDiagram.Report
