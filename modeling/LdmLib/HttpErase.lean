import LdmLib.HttpServer

namespace LDM.HttpServer
set_option autoImplicit true

/-- The `eraseList` that the loop over the registry collects. -/
def eraseList (p : UriPtr → Bool) (registry : List UriPtr) : List Nat :=
  TwoPass.matching p 0 registry

/-- The loop over `eraseList` comes to its end with the new registry, each turn erases inside the
vector as it is by then, and what is left are the entries that do not match, in their order. -/
structure Filters (p : UriPtr → Bool) (registry registry' : List UriPtr) : Prop where
  erased : TwoPass.eraseShifted registry 0 (eraseList p registry) = some registry'
  inside : Run.Guarded TwoPass.eraseStep TwoPass.Inside (registry, 0) (eraseList p registry)
  filtered : registry' = registry.filter fun q => !p q

variable {desc : UriPtr → HttpdUri} {s : HttpServer}

theorem filters_eraseMatching (s : HttpServer) (p : UriPtr → Bool) :
    Filters p s.registeredUri (s.eraseMatching p).registeredUri := by
  rw [eraseMatching_eq]
  have he := TwoPass.eraseShifted_matching p s.registeredUri
  exact ⟨he, (TwoPass.eraseShifted_eq_some.1 he).1, rfl⟩

theorem unregister_filters (hs : s.server = some h) (uri : String) (method : HttpdMethod) :
    Filters (fun p => (desc p).method = method && (desc p).uri = uri)
        s.registeredUri (s.unregisterUriHandle desc uri method).1.registeredUri ∧
      Filters (fun p => (desc p).uri = uri)
        s.registeredUri (s.unregisterAllUriHandlesOf desc uri).1.registeredUri := by
  obtain ⟨st, sv, ru, hd⟩ := s
  obtain rfl : sv = some h := hs
  exact ⟨filters_eraseMatching _ _, filters_eraseMatching _ _⟩

def oneApart (p : UriPtr) : HttpdUri := ⟨if p = 2 then "/b" else "/a", 1⟩

def fourHandlers : HttpServer :=
  Run.run (step oneApart) (construct true ⟨false, none⟩)
    [.startServer .ok false, .uri (.registerUriHandle 0 .ok), .uri (.registerUriHandle 1 .ok),
      .uri (.registerUriHandle 2 .ok), .uri (.registerUriHandle 3 .ok)]

theorem unregister_filters_four :
    Filters (fun p => (oneApart p).method = 1 && (oneApart p).uri = "/a")
        fourHandlers.registeredUri
        (fourHandlers.unregisterUriHandle oneApart "/a" 1).1.registeredUri ∧
      Filters (fun p => (oneApart p).uri = "/a")
        fourHandlers.registeredUri
        (fourHandlers.unregisterAllUriHandlesOf oneApart "/a").1.registeredUri := by
  have hs : fourHandlers.server = some 0 := rfl
  exact unregister_filters hs "/a" 1

end LDM.HttpServer
