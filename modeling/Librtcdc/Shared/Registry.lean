import Mathlib.Data.List.Induction
import Mathlib.Logic.Function.Basic

set_option autoImplicit false

namespace Systems

universe u v w x

variable {Id : Type u} {Code : Type v} {Repo : Type w} {Server : Type x}

/-- The servers that are there, and the place that each open session and each code stands for. -/
structure Registry (Id : Type u) (Code : Type v) (Repo : Type w) (Server : Type x) where
  servers : List Server
  sessions : Id → Option (Repo × Server)
  codes : Code → Option (Repo × Server)

namespace Registry

def empty : Registry Id Code Repo Server where
  servers := []
  sessions := fun _ => none
  codes := fun _ => none

inductive Move (Id : Type u) (Code : Type v) (Repo : Type w) (Server : Type x) where
  | register (server : Server)
  | leave (server : Server)
  -- a session for a new repository, one for a published code, and the end of a session
  | create (id : Id) (repo : Repo)
  | join (id : Id) (code : Code)
  | close (id : Id)
  | publish (id : Id) (code : Code)
  deriving DecidableEq

variable {r : Registry Id Code Repo Server} {move : Move Id Code Repo Server}
  {moves : List (Move Id Code Repo Server)} {id : Id} {code : Code} {place : Repo × Server}

def Traced (moves : List (Move Id Code Repo Server)) (place : Repo × Server) : Prop :=
  (∃ id, .create id place.1 ∈ moves) ∧ .register place.2 ∈ moves

structure AllTraced (r : Registry Id Code Repo Server) (moves : List (Move Id Code Repo Server)) :
    Prop where
  servers : ∀ server ∈ r.servers, .register server ∈ moves
  sessions : ∀ id place, r.sessions id = some place → Traced moves place
  codes : ∀ code place, r.codes code = some place → Traced moves place

theorem Traced.later {more : List (Move Id Code Repo Server)} (traced : Traced moves place) :
    Traced (moves ++ more) place :=
  ⟨traced.1.imp fun _ => List.mem_append_left _, List.mem_append_left _ traced.2⟩

theorem AllTraced.later (all : AllTraced r moves) (more : List (Move Id Code Repo Server)) :
    AllTraced r (moves ++ more) where
  servers server member := List.mem_append_left _ (all.servers server member)
  sessions id place found := (all.sessions id place found).later
  codes code place found := (all.codes code place found).later

variable [DecidableEq Id] [DecidableEq Code] [DecidableEq Server]
  (choose : List Server → Option Server)

def opened (r : Registry Id Code Repo Server) (id : Id) :
    Option (Repo × Server) → Registry Id Code Repo Server
  | none => r
  | some place => { r with sessions := Function.update r.sessions id (some place) }

def published (r : Registry Id Code Repo Server) (code : Code) :
    Option (Repo × Server) → Registry Id Code Repo Server
  | none => r
  | some place => { r with codes := Function.update r.codes code (some place) }

def after (r : Registry Id Code Repo Server) :
    Move Id Code Repo Server → Registry Id Code Repo Server
  | .register server => { r with servers := r.servers ++ [server] }
  | .leave server => { r with servers := r.servers.erase server }
  | .create id repo => r.opened id ((choose r.servers).map fun server => (repo, server))
  | .join id code => r.opened id (r.codes code)
  | .close id => { r with sessions := Function.update r.sessions id none }
  | .publish id code => r.published code (r.sessions id)

def afterAll (r : Registry Id Code Repo Server) (moves : List (Move Id Code Repo Server)) :
    Registry Id Code Repo Server :=
  moves.foldl (after choose) r

variable {choose}

omit [DecidableEq Code] [DecidableEq Server] in
theorem opened_codes (place : Option (Repo × Server)) : (r.opened id place).codes = r.codes := by
  cases place <;> rfl

theorem afterAll_concat :
    r.afterAll choose (moves ++ [move]) = (r.afterAll choose moves).after choose move := by
  rw [afterAll, List.foldl_append]
  rfl

theorem codes_after (known : r.codes code = some place) (new : ∀ id, move ≠ .publish id code) :
    (r.after choose move).codes code = some place := by
  cases move with
  | publish id other =>
      have different : code ≠ other := fun same => new id (same ▸ rfl)
      rw [after]
      cases r.sessions id with
      | none => exact known
      | some found =>
          simpa only [published, Function.update_of_ne different] using known
  | create | join =>
      rw [after, opened_codes]
      exact known
  | register | leave | close => exact known

theorem codes_kept (known : r.codes code = some place)
    (new : ∀ move ∈ moves, ∀ id, move ≠ .publish id code) :
    (r.afterAll choose moves).codes code = some place := by
  induction moves using List.reverseRecOn with
  | nil => exact known
  | append_singleton moves move ih =>
      rw [afterAll_concat]
      exact codes_after (ih fun move member => new move (List.mem_append_left _ member))
        (new move (by simp))

omit [DecidableEq Code] [DecidableEq Server] in
theorem AllTraced.opened {place : Option (Repo × Server)} (all : AllTraced r moves)
    (traced : ∀ found, place = some found → Traced moves found) :
    AllTraced (r.opened id place) moves := by
  cases place with
  | none => exact all
  | some place =>
      refine ⟨all.servers, fun other found there => ?_, all.codes⟩
      by_cases here : other = id
      · subst here
        simp only [Registry.opened, Function.update_self] at there
        exact traced found there
      · simp only [Registry.opened, Function.update_of_ne here] at there
        exact all.sessions other found there

omit [DecidableEq Id] [DecidableEq Server] in
theorem AllTraced.published {place : Option (Repo × Server)} (all : AllTraced r moves)
    (traced : ∀ found, place = some found → Traced moves found) :
    AllTraced (r.published code place) moves := by
  cases place with
  | none => exact all
  | some place =>
      refine ⟨all.servers, all.sessions, fun other found there => ?_⟩
      by_cases here : other = code
      · subst here
        simp only [Registry.published, Function.update_self] at there
        exact traced found there
      · simp only [Registry.published, Function.update_of_ne here] at there
        exact all.codes other found there

theorem AllTraced.after (picks : ∀ servers server, choose servers = some server → server ∈ servers)
    (all : AllTraced r moves) (move : Move Id Code Repo Server) :
    AllTraced (r.after choose move) (moves ++ [move]) := by
  have earlier := all.later [move]
  cases move with
  | register server =>
      refine ⟨fun other member => ?_, earlier.sessions, earlier.codes⟩
      rcases List.mem_append.mp member with old | new
      · exact earlier.servers other old
      · obtain rfl := List.mem_singleton.mp new
        simp
  | leave server =>
      exact ⟨fun other member => earlier.servers other (List.mem_of_mem_erase member),
        earlier.sessions, earlier.codes⟩
  | create id repo =>
      refine earlier.opened fun found same => ?_
      obtain ⟨server, chosen, rfl⟩ := Option.map_eq_some_iff.mp same
      exact ⟨⟨id, by simp⟩, earlier.servers server (picks _ _ chosen)⟩
  | join id code => exact earlier.opened fun found known => earlier.codes code found known
  | close id =>
      refine ⟨earlier.servers, fun other found there => ?_, earlier.codes⟩
      by_cases here : other = id
      · subst here
        simp only [Registry.after, Function.update_self, reduceCtorEq] at there
      · simp only [Registry.after, Function.update_of_ne here] at there
        exact earlier.sessions other found there
  | publish id code => exact earlier.published fun found known => earlier.sessions id found known

theorem afterAll_traced (picks : ∀ servers server, choose servers = some server → server ∈ servers)
    (moves : List (Move Id Code Repo Server)) :
    AllTraced (empty.afterAll choose moves) moves := by
  induction moves using List.reverseRecOn with
  | nil => exact ⟨nofun, nofun, nofun⟩
  | append_singleton moves move ih =>
      rw [afterAll_concat]
      exact ih.after picks move

end Registry

end Systems
