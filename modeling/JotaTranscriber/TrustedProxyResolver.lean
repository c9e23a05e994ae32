import JotaTranscriber.Basic
import JotaTranscriber.LastKnown
import Mathlib.Data.List.DropRight
import Mathlib.Data.Finset.Basic

namespace JotaTranscriber

-- The answers of resolver_ during one refresh(): to the call for the host at
-- this position of hosts_. An empty answer is a failure.
abbrev DnsRound := Nat → Text → List Text

structure TrustedProxyResolver where
  hosts : List Text
  perHostIps : LastKnown Text (Finset Text)

namespace TrustedProxyResolver
open LastKnown (record recordAll merge latest)

-- std::isspace in the C locale.
def isSpace (byte : UInt8) : Bool := byte = 32 || (9 ≤ byte && byte ≤ 13)

def trim (text : Text) : Text := (text.dropWhile isSpace).rdropWhile isSpace

def comma : UInt8 := 44

-- What std::getline reads up to each comma: an empty last item is not returned.
def items (text : Text) : List Text :=
  let pieces := text.splitOn comma
  if pieces.getLast? = some [] then pieces.dropLast else pieces

def create (commaSeparatedHosts : Text) : TrustedProxyResolver where
  hosts := ((items commaSeparatedHosts).map trim).filter fun host => !host.isEmpty
  perHostIps := ∅

def enabled (resolver : TrustedProxyResolver) : Bool := !resolver.hosts.isEmpty

def callsOf (hosts : List Text) (round : DnsRound) : List (Text × List Text) :=
  hosts.zipIdx.map fun (host,position) => (host,round position host)

-- A host that fails this round is absent from what the round resolves.
def report (call : Text × List Text) : LastKnown.Report Text (Finset Text) :=
  let fresh := call.2.toFinset
  (call.1,if fresh = ∅ then none else some fresh)

def refresh (resolver : TrustedProxyResolver) (round : DnsRound) : TrustedProxyResolver :=
  if resolver.hosts.isEmpty then resolver
  else
    let resolved := recordAll ∅ ((callsOf resolver.hosts round).map report)
    { resolver with perHostIps := merge resolved resolver.perHostIps }

def isTrusted (resolver : TrustedProxyResolver) (ip : Text) : Bool :=
  if resolver.hosts.isEmpty then false
  else resolver.perHostIps.entries.any fun entry => decide (ip ∈ entry.2)

def refreshAll (resolver : TrustedProxyResolver) (rounds : List DnsRound) : TrustedProxyResolver :=
  rounds.foldl refresh resolver

def calls (hosts : List Text) (rounds : List DnsRound) : List (Text × List Text) :=
  rounds.flatMap (callsOf hosts)

-- The most recent answer to this host that is not empty.
def succeeds (host : Text) (call : Text × List Text) : Bool := decide (call.1 = host ∧ call.2 ≠ [])

def lastAnswer (host : Text) (calls : List (Text × List Text)) : Option (List Text) :=
  ((calls.filter (succeeds host)).getLast?).map Prod.snd

def trimmedItems (text : Text) : List Text :=
  ((text.splitOn comma).map trim).filter fun host => !host.isEmpty

theorem create_hosts (text : Text) : (create text).hosts = trimmedItems text := by
  unfold create trimmedItems items
  dsimp only
  split
  · rename_i last
    have whole : text.splitOn comma = (text.splitOn comma).dropLast ++ [[]] := by
      have split := List.dropLast_append_getLast? [] last
      exact split.symm
    conv_rhs => rw [whole]
    simp [trim]
  · rfl

theorem lastAnswer_cons (host : Text) (call : Text × List Text) (rest : List (Text × List Text)) :
    lastAnswer host (call :: rest) =
      (lastAnswer host rest).or (if succeeds host call then some call.2 else none) := by
  unfold lastAnswer
  by_cases own : succeeds host call = true
  · rw [List.filter_cons_of_pos own,if_pos own,List.getLast?_cons]
    cases (rest.filter (succeeds host)).getLast? <;> rfl
  · rw [List.filter_cons_of_neg own,if_neg own,Option.or_none]

theorem latest_report (host : Text) (calls : List (Text × List Text)) :
    latest host (calls.map report) = (lastAnswer host calls).map List.toFinset := by
  induction calls with
  | nil => rfl
  | cons call rest ih =>
    rw [List.map_cons,latest,ih,lastAnswer_cons,Option.map_or]
    congr 1
    by_cases same : call.1 = host
    · by_cases empty : call.2 = []
      · simp [report,succeeds,empty]
      · simp [report,succeeds,same,empty]
    · simp [report,succeeds,same]

theorem lastAnswer_failed {host : Text} {calls : List (Text × List Text)}
    (failed : ∀ call ∈ calls, call.1 = host → call.2 = []) : lastAnswer host calls = none := by
  have silent : calls.filter (succeeds host) = [] := by
    rw [List.filter_eq_nil_iff]
    intro call present success
    obtain ⟨own,answered⟩ := of_decide_eq_true success
    exact answered (failed call present own)
  rw [lastAnswer,silent]
  rfl

theorem lastAnswer_own (host : Text) (calls : List (Text × List Text)) :
    lastAnswer host (calls.filter (·.1 = host)) = lastAnswer host calls := by
  have same : (fun call => succeeds host call && decide (call.1 = host)) = succeeds host := by
    funext call
    by_cases own : call.1 = host <;> simp [succeeds,own]
  rw [lastAnswer,List.filter_filter,same,lastAnswer]

theorem refresh_hosts (resolver : TrustedProxyResolver) (round : DnsRound) :
    (resolver.refresh round).hosts = resolver.hosts := by
  unfold refresh
  split <;> rfl

theorem lookup_refresh (resolver : TrustedProxyResolver) (round : DnsRound) (host : Text) :
    (resolver.refresh round).perHostIps.lookup host =
      (latest host ((callsOf resolver.hosts round).map report)).or (resolver.perHostIps.lookup host) := by
  unfold refresh
  split
  · rename_i empty
    have none_asked : resolver.hosts = [] := by simpa using empty
    simp [none_asked,callsOf,latest]
  · dsimp only
    rw [LastKnown.lookup_merge,LastKnown.lookup_recordAll]
    simp

theorem lookup_refreshAll (resolver : TrustedProxyResolver) (rounds : List DnsRound) (host : Text) :
    (resolver.refreshAll rounds).hosts = resolver.hosts ∧
      (resolver.refreshAll rounds).perHostIps.lookup host =
        (latest host ((calls resolver.hosts rounds).map report)).or (resolver.perHostIps.lookup host) := by
  induction rounds generalizing resolver with
  | nil => exact ⟨rfl,rfl⟩
  | cons round rest ih =>
    obtain ⟨same,found⟩ := ih (resolver.refresh round)
    rw [refresh_hosts] at same found
    refine ⟨same,?_⟩
    rw [calls,List.flatMap_cons,List.map_append,LastKnown.latest_append,Option.or_assoc,← lookup_refresh]
    exact found

theorem contribution (text : Text) (rounds : List DnsRound) (host : Text) :
    ((create text).refreshAll rounds).perHostIps.lookup host =
      (lastAnswer host (calls (trimmedItems text) rounds)).map List.toFinset := by
  obtain ⟨_,found⟩ := lookup_refreshAll (create text) rounds host
  rw [create_hosts] at found
  rw [found,latest_report]
  exact Option.or_none

theorem lastAnswer_mem {host : Text} {calls : List (Text × List Text)} {answer : List Text}
    (found : lastAnswer host calls = some answer) : (host,answer) ∈ calls := by
  obtain ⟨call,last,rfl⟩ := Option.map_eq_some_iff.mp found
  obtain ⟨present,own⟩ := List.mem_filter.mp (List.mem_of_getLast? last)
  have same : call.1 = host := (of_decide_eq_true own).1
  rw [← same]
  exact present

theorem calls_mem {hosts : List Text} {rounds : List DnsRound} {call : Text × List Text}
    (present : call ∈ calls hosts rounds) : call.1 ∈ hosts := by
  obtain ⟨round,_,asked⟩ := List.mem_flatMap.mp present
  obtain ⟨⟨host,position⟩,indexed,rfl⟩ := List.mem_map.mp asked
  exact List.fst_mem_of_mem_zipIdx indexed

theorem isTrusted_lookup (resolver : TrustedProxyResolver) (ip : Text) :
    resolver.isTrusted ip = true ↔
      resolver.hosts ≠ [] ∧ ∃ host ips, resolver.perHostIps.lookup host = some ips ∧ ip ∈ ips := by
  unfold isTrusted
  by_cases empty : resolver.hosts = []
  · simp [empty]
  · have some_host : resolver.hosts.isEmpty = false := by simpa using empty
    simp only [some_host,Bool.false_eq_true,if_false,List.any_eq_true,decide_eq_true_eq]
    constructor
    · rintro ⟨⟨host,ips⟩,present,member⟩
      exact ⟨empty,host,ips,AList.mem_lookup_iff.mpr present,member⟩
    · rintro ⟨_,host,ips,found,member⟩
      exact ⟨⟨host,ips⟩,AList.mem_lookup_iff.mp found,member⟩

theorem trusted_set (text : Text) (rounds : List DnsRound) :
    ((create text).refreshAll rounds).hosts = trimmedItems text ∧
    (∀ ip, ((create text).refreshAll rounds).isTrusted ip = true ↔
      ∃ host ∈ trimmedItems text, ∃ answer,
        lastAnswer host (calls (trimmedItems text) rounds) = some answer ∧ ip ∈ answer) ∧
    (∀ host, (∀ call ∈ calls (trimmedItems text) rounds, call.1 = host → call.2 = []) →
      ((create text).refreshAll rounds).perHostIps.lookup host = none) ∧
    ∀ host others, (calls (trimmedItems text) rounds).filter (·.1 = host) =
        (calls (trimmedItems text) others).filter (·.1 = host) →
      ((create text).refreshAll rounds).perHostIps.lookup host =
        ((create text).refreshAll others).perHostIps.lookup host := by
  have hosts : ((create text).refreshAll rounds).hosts = trimmedItems text := by
    rw [(lookup_refreshAll (create text) rounds []).1,create_hosts]
  refine ⟨hosts,?_,?_,?_⟩
  · intro ip
    rw [isTrusted_lookup,hosts]
    constructor
    · rintro ⟨_,host,ips,found,member⟩
      rw [contribution] at found
      obtain ⟨answer,last,rfl⟩ := Option.map_eq_some_iff.mp found
      exact ⟨host,calls_mem (lastAnswer_mem last),answer,last,List.mem_toFinset.mp member⟩
    · rintro ⟨host,configured,answer,last,member⟩
      refine ⟨List.ne_nil_of_mem configured,host,answer.toFinset,?_,List.mem_toFinset.mpr member⟩
      rw [contribution,last]
      rfl
  · intro host failed
    rw [contribution,lastAnswer_failed failed]
    rfl
  · intro host others same
    rw [contribution,contribution,← lastAnswer_own,same,lastAnswer_own]

-- A host that is listed twice and answers differently, one that fails after the
-- first round, and an item of blanks.
def threeItems : Text := bytes " gw , ,gw,api"

def firstRound : DnsRound := fun position _ => [bytes "10.0.0." ++ decimalInt position]

theorem trusted_set_kept :
    ((create threeItems).refreshAll [firstRound,fun _ _ => []]).hosts = [bytes "gw",bytes "gw",bytes "api"] ∧
    ((create threeItems).refreshAll [firstRound,fun _ _ => []]).isTrusted (bytes "10.0.0.1") = true ∧
    ((create threeItems).refreshAll [firstRound,fun _ _ => []]).isTrusted (bytes "10.0.0.2") = true := by
  obtain ⟨hosts,trusted,_,_⟩ := trusted_set threeItems [firstRound,fun _ _ => []]
  refine ⟨hosts.trans (by decide),(trusted _).mpr ?_,(trusted _).mpr ?_⟩
  · exact ⟨bytes "gw",by decide,[bytes "10.0.0.1"],by decide,by decide⟩
  · exact ⟨bytes "api",by decide,[bytes "10.0.0.2"],by decide,by decide⟩

end TrustedProxyResolver
end JotaTranscriber
