import ClassDiagram.Document.Json.Writer
import ClassDiagram.Report.Types
import ClassDiagram.Script.DiagramLine
import ClassDiagram.Script.DiagramPage
import ClassDiagram.Script.Draft
import ClassDiagram.Script.JavaPage
import ClassDiagram.Script.Objects
import ClassDiagram.Proofs.Objects.Termination
import ClassDiagram.Proofs.Objects.Guarantees
import ClassDiagram.Proofs.Objects.Sides
import ClassDiagram.Proofs.Objects.Subclasses
import ClassDiagram.Proofs.Model.WellFormed
import ClassDiagram.Proofs.Java.Callbacks
import ClassDiagram.Proofs.Java.Agreement
import ClassDiagram.Proofs.Java.Methods
import ClassDiagram.Proofs.Draft.QualifiedNames
import ClassDiagram.Proofs.Draft.Appending
import ClassDiagram.Proofs.Draft.Members
import ClassDiagram.Proofs.Draft.Generation
import ClassDiagram.Proofs.Draft.Files
import ClassDiagram.Proofs.Draft.Structure
import ClassDiagram.Proofs.Draft.Strictness
import ClassDiagram.Proofs.Model.Returns
import ClassDiagram.Proofs.Draft.SimpleNames
import ClassDiagram.Proofs.Draft.References
import ClassDiagram.Proofs.Loading.Reading
import ClassDiagram.Proofs.Loading.Refusal
import ClassDiagram.Proofs.Draft.Duplicates
import ClassDiagram.Proofs.Java.Descriptions
import ClassDiagram.Proofs.Java.Homonyms
import ClassDiagram.Proofs.Loading.MultiplicityForms
import ClassDiagram.Proofs.Diagram.Labels
import ClassDiagram.Proofs.Diagram.Packages
import ClassDiagram.Proofs.Java.Outline
import ClassDiagram.Proofs.Document.Keys
import ClassDiagram.Proofs.TypeProfile
import ClassDiagram.Proofs.Text.Lines
import ClassDiagram.Proofs.Java.Steps
import ClassDiagram.Proofs.Java.Fragments
import ClassDiagram.Proofs.Java.Nesting
