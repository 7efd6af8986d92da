import GoStub.Main
import GoStub.Proofs.Dict
import GoStub.Proofs.Occurrence
import GoStub.Proofs.Faults
import GoStub.Proofs.Lookup
import GoStub.Proofs.Need
import GoStub.Proofs.Settle
import GoStub.Proofs.Shape
import GoStub.Proofs.Draft
import GoStub.Proofs.Worklist
import GoStub.Proofs.Ledger
import GoStub.Proofs.PlanWritable
import GoStub.Proofs.Closure
import GoStub.Proofs.Promotion
import GoStub.Proofs.Attribution
import GoStub.Proofs.Cache
import GoStub.Proofs.Failure
import GoStub.Proofs.MethodSet
import GoStub.Proofs.Wanted
import GoStub.Proofs.RequestOrder
import GoStub.Proofs.Substitution
import GoStub.Proofs.Universe
import GoStub.Proofs.ParamScope
import GoStub.Proofs.LocalNames
import GoStub.Proofs.Layout
import GoStub.Proofs.StubImports
import GoStub.Proofs.Files
import GoStub.Proofs.UsageScan
import GoStub.Proofs.PlainImports
import GoStub.Proofs.FileEdits
import GoStub.Proofs.Vendoring
import GoStub.Proofs.VendorTree
import GoStub.Proofs.VendorSources
import GoStub.Proofs.FreeNames
import GoStub.Proofs.Replacement
import GoStub.Proofs.Restatement
import GoStub.Proofs.Redraft
import GoStub.Proofs.Regeneration
import GoStub.Proofs.Spelling
import GoStub.Proofs.SpellingRead
import GoStub.Proofs.Declaring
import GoStub.Proofs.Decoding
import GoStub.Proofs.Rereading
import GoStub.Proofs.WrittenTree
import GoStub.Proofs.PlanTree
import GoStub.Proofs.TreeSpelling
import GoStub.Proofs.StubStability
import GoStub.Proofs.Fidelity
import GoStub.Proofs.Printing
import GoStub.Proofs.SingleLine
import GoStub.Proofs.StubLines
import GoStub.Proofs.Licenses
import GoStub.Proofs.Lexis
import GoStub.Proofs.TypeForm
import GoStub.Proofs.TypeKind
import GoStub.Proofs.Readability
import GoStub.Proofs.ConstantSpecs
import GoStub.Proofs.MethodNames
import GoStub.Proofs.ConstantOperations
import GoStub.Proofs.VariableInit
import GoStub.Proofs.AliasPromotion
import GoStub.Proofs.ConstantKinds
import GoStub.Proofs.ImportHistory
import GoStub.Proofs.Termination
import GoStub.Proofs.WrittenTypes
import GoStub.Proofs.Cycles
import GoStub.Proofs.Blame
import GoStub.Proofs.Merging
import GoStub.Proofs.NameLists
import GoStub.Proofs.HeaderLines
import GoStub.Proofs.Composition
