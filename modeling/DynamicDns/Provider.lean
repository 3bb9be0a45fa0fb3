/-! # Providers

The companies whose DNS records can be kept up to date, a closed list. Each has a name for the
settings and the log, a name for people, and a home page.
-/

namespace DynamicDns

inductive Provider where
  | namecheap
  | digitalOcean
  deriving DecidableEq, Repr

namespace Provider

def all : List Provider := [.namecheap, .digitalOcean]

def name : Provider → String
  | .namecheap => "namecheap"
  | .digitalOcean => "digitalocean"

theorem name_inj {provider provider' : Provider} (h : provider.name = provider'.name) :
    provider = provider' := by
  cases provider <;> cases provider' <;> first | rfl | exact absurd h (by decide)

def displayName : Provider → String
  | .namecheap => "Namecheap"
  | .digitalOcean => "DigitalOcean"

def homePage : Provider → String
  | .namecheap => "https://namecheap.com"
  | .digitalOcean => "https://www.digitalocean.com/"

end Provider

end DynamicDns
