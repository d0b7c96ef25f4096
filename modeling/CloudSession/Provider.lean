import CloudSession.Fault

/-! # Providers

Which interface a provider speaks and where to find it. The providers that come with the library
are found by their id, where a dash and an underscore are the same.
-/

namespace CloudSession

structure Provider where
  id : String
  name : String
  api : String
  endpoint : Value
  apiVersion : Value
  tokenStyle : Value := .text "cookie"
  isoCodes : List Value := []

inductive Api where
  | openstack
  | vcloud
  deriving Repr, DecidableEq

namespace Api

def name : Api → String
  | .openstack => "openstack"
  | .vcloud => "vcloud"

def all : List Api := [.openstack, .vcloud]

def named? (name : String) : Option Api := all.find? (·.name == name)

end Api

namespace Provider

/-- How a provider is written in a log. -/
def describe (p : Provider) : String :=
  "<ProviderMetadata " ++ p.id ++ " (" ++ p.api ++ " " ++ p.apiVersion.display ++ ")>"

/-- A vCloud 1.0 provider, so the token travels in a header. -/
def greenHouseData : Provider where
  id := "greenhousedata-element-vcloud"
  name := "Green House Data Element vCloud"
  api := Api.vcloud.name
  endpoint := .text "https://mycloud.greenhousedata.com/cloud/api"
  apiVersion := .text "1.0"
  tokenStyle := .text "header"
  isoCodes := [.text "US-WY"]

def openstack : Provider where
  id := "openstack"
  name := "OpenStack auth 1.0"
  api := Api.openstack.name
  endpoint := .text "http://localhost:5000"
  apiVersion := .text "1.0"
  tokenStyle := .text "header"

/-- A vCloud 0.8 provider with extensions of its own. -/
def terremarkCloud : Provider where
  id := "trmk-ecloud"
  name := "Terremark Enterprise Cloud"
  api := Api.vcloud.name
  endpoint := .text "https://services.enterprisecloud.terremark.com/api"
  apiVersion := .text "0.8b-ext2.8"
  isoCodes := [.text "US-FL", .text "US-VA", .text "NL-NH"]

def terremarkExpress : Provider where
  id := "trmk-vcloudexpress"
  name := "Terremark vCloud Express"
  api := Api.vcloud.name
  endpoint := .text "https://services.vcloudexpress.terremark.com/api"
  apiVersion := .text "0.8a-ext1.6"
  isoCodes := [.text "US-FL"]

def shipped : List Provider := [greenHouseData, openstack, terremarkCloud, terremarkExpress]

/-- An id with its dashes written as underscores. -/
def plainId (id : String) : List Char := id.toList.map fun c => if c = '-' then '_' else c

/-- The modules that can be imported from the package of the providers. Each one is a file that is
named after its provider, so no two have the same name and none has a point in it. -/
structure Modules where
  providers : List Provider
  apart : (providers.map fun p => plainId p.id).Nodup
  pointless : ∀ p ∈ providers, '.' ∉ plainId p.id

namespace Modules

/-- The modules that come with the library. -/
def shipped : Modules where
  providers := Provider.shipped
  apart := by decide +kernel
  pointless := by decide +kernel

def find? (modules : Modules) (name : List Char) : Option Provider :=
  modules.providers.find? fun p => plainId p.id == name

end Modules

/-- The provider of an id. An id may have parts behind points, of which the first is looked up on
its own; where that fails, the parts behind it are not looked for. -/
def load (modules : Modules) (id : String) : Except FaultHead Provider :=
  let plain := plainId id
  let unknown : FaultHead := .ofProblem .providerNotFound [("provider", .text id)]
  let first := plain.takeWhile (· ≠ '.')
  match plain.dropWhile (· ≠ '.') with
  | [] => match modules.find? plain with
    | some p => .ok p
    | none => .error unknown
  | _ :: rest =>
    if (modules.find? first).isSome && !rest.contains '.' then .error unknown
    else .error { kind := .missingModule }

end Provider

end CloudSession
