import DynamicDns.Updater

/-! # The registry

Which providers a program knows, and how an updater for each of them is made. Registering a provider
again replaces what was registered before; nothing else changes the registry. Registrations are logged,
what is asked between them is not.
-/

namespace DynamicDns

/-- The registered providers with their makers, each provider once. The order does not matter. -/
structure Registry where
  entries : List (Provider × Updater.Maker)
  nodup : (entries.map Prod.fst).Nodup

namespace Registry

def empty : Registry := ⟨[], .nil⟩

def register (provider : Provider) (maker : Updater.Maker) (r : Registry) : Registry where
  entries := (provider, maker) :: r.entries.filter (·.1 ≠ provider)
  nodup := by
    rw [List.map_cons, List.nodup_cons]
    constructor
    · intro hmem
      obtain ⟨entry, hentry, hprovider⟩ := List.mem_map.1 hmem
      exact of_decide_eq_true (List.mem_filter.1 hentry).2 hprovider
    · exact r.nodup.sublist (List.filter_sublist.map Prod.fst)

/-- How updaters for a provider are made, if it is registered. -/
def maker? (r : Registry) (provider : Provider) : Option Updater.Maker :=
  (r.entries.find? (·.1 = provider)).map Prod.snd

/-- What the log says when a provider is registered. -/
def registering (provider : Provider) : Log.Event :=
  ⟨.debug, .registry, "Registering provider: " ++ provider.name⟩

/-- Registers a provider in the usual way. -/
def registerUsual (provider : Provider) (r : Registry) : Registry :=
  r.register provider (Updater.make provider)

def contains (r : Registry) (provider : Provider) : Bool := (r.maker? provider).isSome

/-- Puts a provider in front of the first one with a greater name. -/
def insertByName (provider : Provider) : List Provider → List Provider
  | [] => [provider]
  | first :: rest =>
    if provider.name < first.name then provider :: first :: rest
    else first :: insertByName provider rest

/-- The registered providers, sorted by their names. -/
def toList (r : Registry) : List Provider := (r.entries.map Prod.fst).foldr insertByName []

def create (r : Registry) (provider : Provider) : Updater.Maker :=
  match r.maker? provider with
  | some maker => maker
  | none => fun _ _ _ _ => .error (.unknownProvider provider.name)

@[simp]
theorem maker?_register (provider other : Provider) (maker : Updater.Maker) (r : Registry) :
    (r.register provider maker).maker? other =
      if other = provider then some maker else r.maker? other := by
  by_cases hother : other = provider
  · rw [if_pos hother, hother]
    simp [maker?, register]
  · have hfound : (r.entries.filter (·.1 ≠ provider)).find? (·.1 = other) =
        r.entries.find? (·.1 = other) := by
      rw [List.find?_filter]
      congr
      funext entry
      by_cases hentry : entry.1 = other
      · simp [hentry, hother]
      · simp [hentry]
    rw [if_neg hother, maker?, maker?, register,
      List.find?_cons_of_neg (by simpa using Ne.symm hother), hfound]

@[simp]
theorem maker?_empty (provider : Provider) : empty.maker? provider = none := rfl

/-- The registered providers, for inspection. -/
def inspect (r : Registry) : String :=
  Updater.structureText "ProviderRegistry"
    [("providers", "[" ++ ", ".intercalate (r.toList.map Provider.displayName) ++ "]")]

/-- The registry with all providers of a list. -/
def ofList (providers : List Provider) : Registry :=
  providers.foldl (fun r provider => r.registerUsual provider) empty

/-! ## Sessions -/

/-- What a registry can be called for. -/
inductive Call where
  | register (provider : Provider) (maker : Updater.Maker)
  | contains (provider : Provider)
  | toList
  | inspect
  | create (provider : Provider) (blob : Json) (domain host : String) (version : IpVersion)

/-- What comes back from a call. -/
inductive Answer where
  | registered
  | contained (known : Bool)
  | listed (providers : List Provider)
  | inspected (text : String)
  | created (result : Except Error Updater)

/-- A registry in use, and what was logged of it so far. -/
structure Session where
  registry : Registry
  events : List Log.Event

def Session.start : Session := ⟨empty, []⟩

namespace Call

def perform : Call → StateM Session Answer
  | .register provider maker => do
    modify fun s => ⟨s.registry.register provider maker, s.events ++ [registering provider]⟩
    return .registered
  | .contains provider => return .contained ((← get).registry.contains provider)
  | .toList => return .listed (← get).registry.toList
  | .inspect => return .inspected (← get).registry.inspect
  | .create provider blob domain host version =>
    return .created ((← get).registry.create provider blob domain host version)

/-- Makes one call after the other, whatever comes back. -/
def performAll (calls : List Call) : StateM Session (List Answer) := calls.mapM perform

end Call

end Registry

end DynamicDns
