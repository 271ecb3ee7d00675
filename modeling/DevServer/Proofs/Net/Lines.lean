import DevServer.Proofs.Net.Addresses
import DevServer.Proofs.Text.Lines

/-!
# Addresses on one line

A text that is an address has digits, dots and colons only, and an address is written with nothing
else but brackets and the percent sign of a scope. So neither has a line end.
-/
namespace DevServer.Net

set_option autoImplicit false

open Text (Unbroken unbroken_append unbroken_intercalate unbroken_natural unbroken_ofList
  unbroken_toDigits)

/-- The characters of the texts that are addresses. -/
def InAddress (c : Char) : Prop := IsHex c ∨ c = '.' ∨ c = ':'

section Given

variable {cs : List Char}

theorem Octet.inAddress (h : Octet cs) : ∀ c ∈ cs, InAddress c :=
  fun c hc => .inl (isHex_of_isDigit (h.decimal.digits c hc))

theorem Group.inAddress (h : Group cs) : ∀ c ∈ cs, InAddress c :=
  fun c hc => .inl (h.digits c hc)

theorem IsIPv4.inAddress (h : IsIPv4 cs) : ∀ c ∈ cs, InAddress c := by
  have hdot : InAddress '.' := .inr (.inl rfl)
  obtain ⟨a, b, c, d, ha, hb, hc, hd, rfl⟩ := h
  simp only [List.forall_mem_append, List.forall_mem_cons]
  exact ⟨ha.inAddress, hdot, hb.inAddress, hdot, hc.inAddress, hdot, hd.inAddress⟩

theorem inAddress_separator (first : Bool) : ∀ c ∈ separator first, InAddress c := by
  cases first with
  | true => exact nofun
  | false => exact List.forall_mem_singleton.mpr (.inr (.inr rfl))

theorem Pieces.inAddress {first dotted : Bool} {width : Nat} (h : Pieces first cs width dotted) :
    ∀ c ∈ cs, InAddress c := by
  induction h with
  | none => exact nofun
  | group hgroup _ ih =>
    simp only [List.forall_mem_append]
    exact ⟨⟨inAddress_separator _, hgroup.inAddress⟩, ih⟩
  | embedded hdotted =>
    simp only [List.forall_mem_append]
    exact ⟨inAddress_separator _, hdotted.inAddress⟩

theorem IsAddress.inAddress (h : IsAddress cs) : ∀ c ∈ cs, InAddress c := by
  have hcolon : InAddress ':' := .inr (.inr rfl)
  rcases h with h | h
  · exact h.inAddress
  · cases h with
    | full hpieces => exact hpieces.inAddress
    | compressed hfront hback _ =>
      simp only [List.forall_mem_append, List.forall_mem_cons]
      exact ⟨hfront.inAddress, hcolon, hcolon, hback.inAddress⟩

end Given

theorem unbroken_of_ofString? {host : String} {ip : IpAddress}
    (h : IpAddress.ofString? host = some ip) : Unbroken host := by
  have hnewline : ¬ InAddress '\n' := by
    unfold InAddress
    decide
  have haddress : IsAddress host.toList :=
    IpAddress.ofString?_isSome_iff.mp (Option.isSome_iff_exists.mpr ⟨ip, h⟩)
  exact fun hm => hnewline (haddress.inAddress _ hm)

theorem IPv4.unbroken_render (x : IPv4) : Unbroken x.render :=
  (unbroken_intercalate (by decide)).mpr (List.forall_mem_map.mpr fun _ _ => unbroken_natural _)

theorem unbroken_renderGroups (gs : List UInt16) : Unbroken (renderGroups gs) :=
  (unbroken_intercalate (by decide)).mpr (List.forall_mem_map.mpr fun g _ =>
    unbroken_ofList.mpr (unbroken_toDigits (by decide) g.toNat))

theorem IPv6.unbroken_render (x : IPv6) : Unbroken x.render := by
  unfold IPv6.render
  split
  · next embedded _ => exact unbroken_append.mpr ⟨by decide, embedded.unbroken_render⟩
  · dsimp only
    split
    · exact unbroken_renderGroups _
    · exact Unbroken.between (by decide) (unbroken_renderGroups _) (unbroken_renderGroups _)

theorem SocketAddress.unbroken_render (a : SocketAddress) : Unbroken a.render := by
  have hport : Unbroken (toString a.port.toNat) := unbroken_natural _
  unfold SocketAddress.render
  split
  · next x _ => exact Unbroken.between (by decide) x.unbroken_render hport
  · next x _ =>
    have hscope : Unbroken (if a.scope = 0 then "" else s!"%{a.scope.toNat}") := by
      split
      · decide
      · exact unbroken_append.mpr ⟨by decide, unbroken_natural _⟩
    have hbracket : Unbroken "[" := by decide
    have hbracketed := x.unbroken_render.between hbracket hscope
    exact Unbroken.between (by decide) hbracketed hport

end DevServer.Net
