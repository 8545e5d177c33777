import ClassDiagram.Diagnostic

/-!
# Java code as a tree

Java code as a tree of lines and blocks, before it is laid out.  Comments and fragments hold what a
document gives for them, which need not be text.  Where a line cannot be formed, the tree says so, and laying
it out fails there and not before.
-/

set_option autoImplicit false

namespace ClassDiagram.Java

/-- A piece of Java code. -/
inductive Code where
  /-- A line. -/
  | line (text : String)
  /-- An empty line, where one is in order. -/
  | blank
  /-- A block under its header. -/
  | block (header : String) (body : List Code)
  /-- A documentation comment: a description, if it is given, and tags. -/
  | comment (description : Document) (tags : List String)
  /-- Lines written by hand. -/
  | fragment (content : Document)
  /-- What cannot be written. -/
  | unwritable (error : Misfit)
  deriving Repr

namespace Code

/-- A line that may fail to be formed. -/
def ofLine : Except Misfit String → Code
  | .ok text => line text
  | .error e => unwritable e

/-- A block under a header that may fail to be formed. -/
def ofBlock (header : Except Misfit String) (body : List Code) : Code :=
  match header with
  | .ok text => block text body
  | .error e => unwritable e

end Code

end ClassDiagram.Java
