import GoStub.Shape.Plan
import GoStub.Stub.Text

/-! From requests to stubs. -/

namespace GoStub

/-- A stub with the request it answers and where its package was found. -/
structure SourcedStub where
  request : Request
  stub : Stub
  packageDir : Path
  moduleDir : Option Path

/-- The stub of a request, with packages as they are loaded. -/
def stubFor (source : Source) (request : Request) : Lookup SourcedStub := do
  let target ← Lookup.package source request.package
  let plan ← planFrom source request target
  let stub ← Lookup.ofExcept (Stub.ofPlan plan)
  return ⟨request, stub, target.dir, target.moduleDir⟩

/-- The stub of a request; nothing is loaded before. -/
def makeStub (source : Source) (request : Request) : Except StubFault SourcedStub :=
  ((stubFor source request).run .empty).1

/-- Stubs one after the other up to the first failure, with the packages that succeeded. -/
def makeEach (source : Source) :
    List Request → List String × Except StubFault (List SourcedStub)
  | [] => ([], .ok [])
  | request :: rest =>
    match makeStub source request with
    | .error e => ([], .error e)
    | .ok stub =>
      let (done, stubs) := makeEach source rest
      (stub.stub.package :: done, stubs.map (stub :: ·))

/-- The stubs of all requests, one for each package. -/
def makeStubs (source : Source) (requests : List Request) :
    List String × Except StubFault (List SourcedStub) :=
  makeEach source (Request.merge requests)

end GoStub
