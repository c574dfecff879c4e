/-
**What operations of a registry leave on a line.**

* `Channel.Hosts`: the line of the first channel with a number satisfies a condition;
* `Registry.Sound`: every registered device has the driver of its code;
* `Registry.Calm`: a condition that looking for devices does not end;
* `Registry.scan_sound`, `Registry.locate_sound`, `Registry.onDevice_sound`: the registry stays
  sound;
* `Registry.scan_hosts`, `Registry.locate_hosts`: scans do not end a calm condition;
* `Registry.onDevice_hosts`, `Registry.onDevice_leads`: what the actions of a device make of it
  (for those of a channel `Registry.onChannel_hosts`, `Registry.onChannel_leads`);
* `Registry.Made`: what a registry can have been through, which leaves it sound.
-/

import WireBridge.Proofs.Device.Basic
import WireBridge.Proofs.Registry.Tending

namespace WireBridge

variable {β ω ε α : Type} {holds : β → Prop}

open WireBridge.Action (Leads Keeps)

/-! ### Channels -/

namespace Channel

/-- The line of the first channel with a number satisfies a condition. -/
def Hosts (id : ChannelId) (holds : β → Prop) (channels : List (Channel β)) : Prop :=
  ∃ channel, channels.find? (fun channel => channel.id == id) = some channel ∧ holds channel.line

variable {id : ChannelId} {channels : List (Channel β)}

theorem Hosts.mono {wanted : β → Prop} (hosts : Hosts id holds channels)
    (weaker : ∀ line, holds line → wanted line) : Hosts id wanted channels := by
  obtain ⟨channel, found, here⟩ := hosts
  exact ⟨channel, found, weaker channel.line here⟩

theorem hosts_cons {head : Channel β} {tail : List (Channel β)} :
    Hosts id holds (head :: tail) ↔
      (head.id = id ∧ holds head.line) ∨ (head.id ≠ id ∧ Hosts id holds tail) := by
  unfold Hosts
  by_cases same : head.id = id
  · simp [same]
  · simp [same]

/-- The line of a channel is changed. -/
theorem Hosts.set {place : Nat} {channel changed : Channel β} (hosts : Hosts id holds channels)
    (there : channels[place]? = some channel) (same : changed.id = channel.id)
    (stays : holds channel.line → holds changed.line) :
    Hosts id holds (channels.set place changed) := by
  induction channels generalizing place with
  | nil => exact absurd there (by simp)
  | cons head tail ih =>
    cases place with
    | zero =>
      obtain rfl : head = channel := Option.some.inj there
      rw [List.set_cons_zero]
      rw [hosts_cons] at hosts ⊢
      rw [same]
      exact hosts.imp (fun ⟨here, known⟩ => ⟨here, stays known⟩) fun later => later
    | succ place =>
      rw [List.set_cons_succ]
      rw [hosts_cons] at hosts ⊢
      exact hosts.imp_right fun ⟨elsewhere, later⟩ => ⟨elsewhere, ih later there⟩

/-- The first channel with a number is where it is looked for. -/
theorem Hosts.findIdx? (hosts : Hosts id holds channels) :
    ∃ place channel, channels.findIdx? (fun channel => channel.id == id) = some place ∧
      channels[place]? = some channel ∧ holds channel.line := by
  induction channels with
  | nil =>
    obtain ⟨_, found, _⟩ := hosts
    exact absurd found (by simp)
  | cons head tail ih =>
    rcases hosts_cons.mp hosts with ⟨same, here⟩ | ⟨different, later⟩
    · exact ⟨0, head, by simp [List.findIdx?_cons, same], rfl, here⟩
    · obtain ⟨place, channel, found, there, known⟩ := ih later
      exact ⟨place + 1, channel, by simp [List.findIdx?_cons, different, found], there, known⟩

/-- The line of the first channel with a number is changed. -/
theorem hosts_set_first {place : Nat} {changed : Channel β}
    (first : channels.findIdx? (fun channel => channel.id == id) = some place)
    (same : changed.id = id) (known : holds changed.line) :
    Hosts id holds (channels.set place changed) := by
  induction channels generalizing place with
  | nil => exact absurd first (by simp)
  | cons head tail ih =>
    rw [List.findIdx?_cons] at first
    by_cases here : head.id = id
    · obtain rfl : 0 = place := by simpa [here] using first
      rw [List.set_cons_zero, hosts_cons]
      exact .inl ⟨same, known⟩
    · obtain ⟨before, found, rfl⟩ : ∃ before,
          tail.findIdx? (fun channel => channel.id == id) = some before ∧ before + 1 = place := by
        simpa [here] using first
      rw [List.set_cons_succ, hosts_cons]
      exact .inr ⟨here, ih found⟩

/-- The first channel with a number is that of the place where it is looked for. -/
theorem hosts_of_findIdx? {place : Nat} {channel : Channel β}
    (first : channels.findIdx? (fun channel => channel.id == id) = some place)
    (there : channels[place]? = some channel) (same : channel.id = id)
    (known : holds channel.line) : Hosts id holds channels := by
  obtain ⟨inside, rfl⟩ := List.getElem?_eq_some_iff.mp there
  have hosts := hosts_set_first first same known
  rwa [List.set_getElem_self] at hosts

end Channel

namespace Registry

variable {lines : ChannelId → Master (β × ω) ε} {id : ChannelId}

/-- The line of the first channel with a number satisfies a condition. -/
def Hosts (registry : Registry β) (id : ChannelId) (holds : β → Prop) : Prop :=
  Channel.Hosts id holds registry.channels

/-- Every registered device has the driver of its code. -/
def Sound (registry : Registry β) : Prop :=
  ∀ code device, registry.find? code = some device → device.driver.Fits code

/-! ### Registered devices -/

theorem ofChannels_sound (channels : List (Channel β)) : (ofChannels channels).Sound :=
  fun _ _ found => absurd found (by simp [find?, ofChannels])

theorem admits_fits {values : List Unit} :
    Admits lines (fun _ => ()) values fun code device => device.driver.Fits code where
  marked := ⟨fun _ _ _ => rfl, fun _ _ _ => rfl, fun _ _ _ => rfl⟩
  added _ _ _ _ _ _ added :=
    Driver.fits_of_forget (congrArg Device.driver (Channel.unread_addDevice added))

/-- A registry is sound if its entries are, whatever its channels are like. -/
theorem keeps_sound {action : Action (Registry β × ω) ε α}
    (keeps : ∀ values : List Unit, Keeps (fun state : Registry β × ω =>
      state.1.Tended (fun _ => ()) values fun code device => device.driver.Fits code) action) :
    Keeps (fun state : Registry β × ω => state.1.Sound) action :=
  Action.keeps_iff.mpr fun state sound =>
    (Action.keeps_iff.mp (keeps (state.1.marks fun _ => ())) state ⟨rfl, sound⟩).good

/-! ### Actions on lines -/

theorem onChannel_sound (other : ChannelId) (action : Action (β × ω) (BusError ε) α) :
    Keeps (fun state : Registry β × ω => state.1.Sound) (onChannel other action) :=
  keeps_sound fun _ => tended_onChannel (fun _ _ => rfl) other

theorem onChannel_hosts {action : Action (β × ω) (BusError ε) α}
    (keeps : Keeps (fun state : β × ω => holds state.1) action) (other : ChannelId) :
    Keeps (fun state : Registry β × ω => state.1.Hosts id holds) (onChannel other action) := by
  refine Action.keeps_iff.mpr ?_
  rintro ⟨registry, world⟩ hosts
  cases found : registry.place? other with
  | none =>
    rw [onChannel_unknown found]
    exact hosts
  | some place =>
    obtain ⟨channel, there, _⟩ := exists_of_place found
    rw [onChannel_perform found there]
    exact Channel.Hosts.set hosts there rfl fun known =>
      Action.keeps_iff.mp keeps (channel.line, world) known

/-- Actions on the channel itself. -/
theorem onChannel_leads {before failed : β → Prop} {after : α → β → Prop}
    {action : Action (β × ω) (BusError ε) α}
    (leads : Leads (fun state : β × ω => before state.1) action
      (fun value state => after value state.1) fun state => failed state.1) :
    Leads (fun state : Registry β × ω => state.1.Hosts id before) (onChannel id action)
      (fun value state => state.1.Hosts id (after value)) fun state => state.1.Hosts id failed := by
  rintro ⟨registry, world⟩ hosts
  obtain ⟨place, channel, first, there, known⟩ := Channel.Hosts.findIdx? hosts
  have found : registry.place? id = some place := first
  obtain ⟨same, sameThere, idEq⟩ := exists_of_place found
  obtain rfl := Option.some.inj (there.symm.trans sameThere)
  have reached := leads (channel.line, world) known
  rw [onChannel_perform found there]
  generalize action.perform (channel.line, world) = performed at reached ⊢
  rcases performed with ⟨error | value, line, world⟩
  · exact Channel.hosts_set_first first idEq reached
  · exact Channel.hosts_set_first first idEq reached

section Devices

variable {code : Address} {device : Device}
  {action : Master (β × ω) ε → Action (Device × (β × ω)) (BusError ε) α}

theorem onDevice_sound (fits : device.driver.Fits code)
    (keeps : Keeps (fun state : Device × (β × ω) => state.1.driver.Fits code)
      (action (lines device.channel))) :
    Keeps (fun state : Registry β × ω => state.1.Sound) (onDevice lines code device action) :=
  keeps_sound fun _ => tended_onDevice (fun _ _ => rfl) fun line =>
    Action.keeps_iff.mp keeps (device, line) fits

/-- The actions of a device on any channel. -/
theorem onDevice_hosts
    (leads : Leads (fun state : Device × (β × ω) => state.1 = device ∧ holds state.2.1)
      (action (lines device.channel)) (fun _ state => holds state.2.1)
      fun state => holds state.2.1) :
    Keeps (fun state : Registry β × ω => state.1.Hosts id holds)
      (onDevice lines code device action) := by
  refine Action.keeps_iff.mpr ?_
  rintro ⟨registry, world⟩ hosts
  cases found : registry.place? device.channel with
  | none =>
    rw [onDevice_unknown found]
    exact hosts
  | some place =>
    obtain ⟨channel, there, _⟩ := exists_of_place found
    rw [onDevice_perform found there]
    refine Channel.Hosts.set hosts there rfl fun known => ?_
    have reached := leads (device, (channel.line, world)) ⟨rfl, known⟩
    show holds ((action (lines device.channel)).perform (device, (channel.line, world))).2.2.1
    generalize (action (lines device.channel)).perform (device, (channel.line, world)) = performed
      at reached ⊢
    rcases performed with ⟨error | value, after⟩
    · exact reached
    · exact reached

/-- The actions of a device on the channel itself. -/
theorem onDevice_leads {before failed : β → Prop} {after : α → β → Prop}
    (here : device.channel = id)
    (leads : Leads (fun state : Device × (β × ω) => state.1 = device ∧ before state.2.1)
      (action (lines device.channel)) (fun value state => after value state.2.1)
      fun state => failed state.2.1) :
    Leads (fun state : Registry β × ω => state.1.Hosts id before)
      (onDevice lines code device action) (fun value state => state.1.Hosts id (after value))
      fun state => state.1.Hosts id failed := by
  subst here
  rintro ⟨registry, world⟩ hosts
  obtain ⟨place, channel, first, there, known⟩ := Channel.Hosts.findIdx? hosts
  have found : registry.place? device.channel = some place := first
  obtain ⟨same, sameThere, idEq⟩ := exists_of_place found
  obtain rfl := Option.some.inj (there.symm.trans sameThere)
  have reached := leads (device, (channel.line, world)) ⟨rfl, known⟩
  rw [onDevice_perform found there]
  dsimp only
  generalize (action (lines device.channel)).perform (device, (channel.line, world)) = performed
    at reached ⊢
  rcases performed with ⟨error | value, changed, line, world⟩
  · exact Channel.hosts_set_first first idEq reached
  · exact Channel.hosts_set_first first idEq reached

end Devices

/-! ### Looking for devices -/

/-- A condition on a line that looking for devices does not end. -/
structure Calm (lines : ChannelId → Master (β × ω) ε) (holds : β → Prop) : Prop where
  searched : ∀ id family found line world, holds line →
    holds (Search.passes (lines id) Search.maxPasses (Search.start .normal family, (line, world))
      found).2.2.1
  asked : ∀ id code,
    Keeps (fun state : β × ω => holds state.1) (Search.present (lines id) code)
  added : ∀ id channel code,
    Leads (fun state : Device × (β × ω) => state.1 = .ofAddress channel code ∧ holds state.2.1)
      (Device.setUp (lines id)) (fun _ state => holds state.2.1) fun state => holds state.2.1

/-- Adding a device leaves the number of its channel and a calm condition on its line. -/
theorem Calm.addDevice (calm : Calm lines holds) (other : ChannelId) (code : Address)
    (state : Channel β × ω) :
    (Channel.addDevice (lines other) code state).2.1.id = state.1.id ∧
      (holds state.1.line → holds (Channel.addDevice (lines other) code state).2.1.line) := by
  refine ⟨rfl, fun known => ?_⟩
  have reached := calm.added other state.1.id code
    (Device.ofAddress state.1.id code, (state.1.line, state.2)) ⟨rfl, known⟩
  show holds ((Device.setUp (lines other)).perform
    (Device.ofAddress state.1.id code, (state.1.line, state.2))).2.2.1
  generalize (Device.setUp (lines other)).perform
    (Device.ofAddress state.1.id code, (state.1.line, state.2)) = performed at reached ⊢
  rcases performed with ⟨error | value, after⟩
  · exact reached
  · exact reached

theorem searchAll_hosts (calm : Calm lines holds) (family : Option FamilyCode)
    {channels : List (Channel β)} (hosts : Channel.Hosts id holds channels) (world : ω) :
    Channel.Hosts id holds (searchAll lines family channels world).2.1 := by
  induction channels generalizing world with
  | nil => exact hosts
  | cons head tail ih =>
    have searched := calm.searched head.id family [] head.line world
    unfold searchAll
    dsimp only
    rw [Channel.hosts_cons] at hosts ⊢
    rcases hosts with ⟨same, known⟩ | ⟨different, later⟩
    · exact .inl ⟨same, searched known⟩
    · exact .inr ⟨different, ih later _⟩

theorem enroll_hosts (calm : Calm lines holds) {state : Registry β × ω}
    (hosts : state.1.Hosts id holds) (sighting : Address × Nat) :
    (enroll lines state sighting).1.Hosts id holds := by
  obtain ⟨registry, world⟩ := state
  unfold enroll
  dsimp only
  split
  · exact hosts
  · next channel there =>
    split
    · exact hosts
    · obtain ⟨same, stays⟩ := calm.addDevice channel.id sighting.1 (channel, world)
      simp only [atPlace, there]
      unfold Hosts
      rw [settle_channels]
      exact Channel.Hosts.set hosts there same stays

/-- **A scan** leaves the registry sound and a calm condition on a line as it is. -/
theorem scan_sound (family : Option FamilyCode) :
    Keeps (fun state : Registry β × ω => state.1.Sound) (scan lines family) :=
  keeps_sound fun _ => admits_fits.scan family

theorem scan_hosts (calm : Calm lines holds) (family : Option FamilyCode) :
    Keeps (fun state : Registry β × ω => state.1.Hosts id holds) (scan lines family) := by
  refine Action.keeps_iff.mpr ?_
  rintro ⟨registry, world⟩ hosts
  have enrolled : ∀ (seen : List (Address × Nat)) (state : Registry β × ω),
      state.1.Hosts id holds → (seen.foldl (enroll lines) state).1.Hosts id holds := by
    intro seen
    induction seen with
    | nil => exact fun _ hosts => hosts
    | cons sighting rest ih => exact fun _ hosts => ih _ (enroll_hosts calm hosts sighting)
  exact enrolled _ _ (searchAll_hosts calm family hosts world)

theorem inquire_hosts (calm : Calm lines holds) (code : Address) {channels : List (Channel β)}
    (hosts : Channel.Hosts id holds channels) (world : ω) :
    Channel.Hosts id holds (inquire lines code channels world).1.channels := by
  induction channels generalizing world with
  | nil => exact hosts
  | cons channel rest ih =>
    have asked := Action.keeps_iff.mp (calm.asked channel.id code) (channel.line, world)
    unfold inquire Channel.onLine
    dsimp only [Action.perform_ofStep]
    generalize (Search.present (lines channel.id) code).perform (channel.line, world) = performed
      at asked ⊢
    rcases performed with ⟨error | found, line, reached⟩
    · rw [Channel.hosts_cons] at hosts ⊢
      rcases hosts with ⟨same, known⟩ | ⟨different, later⟩
      · exact .inl ⟨same, asked known⟩
      · exact .inr ⟨different, ih later reached⟩
    · cases found with
      | false =>
        rw [Channel.hosts_cons] at hosts ⊢
        rcases hosts with ⟨same, known⟩ | ⟨different, later⟩
        · exact .inl ⟨same, asked known⟩
        · exact .inr ⟨different, ih later reached⟩
      | true =>
        obtain ⟨same, stays⟩ :=
          calm.addDevice channel.id code ({ channel with line := line }, reached)
        rw [Channel.hosts_cons] at hosts
        dsimp only
        rw [Channel.hosts_cons, same]
        rcases hosts with ⟨here, known⟩ | later
        · exact .inl ⟨here, stays (asked known)⟩
        · exact .inr later

/-- **Looking for one device** leaves them as they are too. -/
theorem locate_sound (code : Address) :
    Keeps (fun state : Registry β × ω => state.1.Sound) (locate lines code) :=
  keeps_sound fun _ => admits_fits.locate code

theorem locate_hosts (calm : Calm lines holds) (code : Address) :
    Keeps (fun state : Registry β × ω => state.1.Hosts id holds) (locate lines code) := by
  refine Action.keeps_iff.mpr ?_
  rintro ⟨registry, world⟩ hosts
  have asked := inquire_hosts calm code hosts world
  unfold locate
  rw [Action.perform_ofStep]
  dsimp only
  unfold Hosts
  split
  · rw [settle_channels]
    exact asked
  · exact asked
  · exact asked

/-! ### What a registry has been through -/

theorem start_sound (config : Config) :
    Keeps (fun state : Registry β × ω => state.1.Sound) (start lines config) := by
  refine Action.leads_bind (fun _ state => state.1.Sound)
    (Action.leads_update fun _ sound => sound) fun _ => ?_
  split
  · exact scan_sound none
  · exact Action.leads_pure fun _ sound => sound

/-- The registries that can be had, with what their channels share. The channels are in other hands
too, by which anything can become of them. -/
inductive Made (lines : ChannelId → Master (β × ω) ε) : Registry β × ω → Prop
  | new (channels : List (Channel β)) (world : ω) : Made lines (ofChannels channels, world)
  | touched {registry : Registry β} {world : ω} (made : Made lines (registry, world))
    (channels : List (Channel β)) (changed : ω) : Made lines (⟨channels, registry.devices⟩, changed)
  | start {state : Registry β × ω} (made : Made lines state) (config : Config) :
    Made lines ((start lines config).perform state).2
  | scan {state : Registry β × ω} (made : Made lines state) (family : Option FamilyCode) :
    Made lines ((scan lines family).perform state).2
  | locate {state : Registry β × ω} (made : Made lines state) (code : Address) :
    Made lines ((locate lines code).perform state).2
  | sample {state : Registry β × ω} (made : Made lines state) {code : Address} {device : Device}
    (found : state.1.find? code = some device) (quantity : Quantity) :
    Made lines ((onDevice lines code device fun master =>
      Device.sample master quantity).perform state).2
  | read {state : Registry β × ω} (made : Made lines state) {code : Address} {device : Device}
    (found : state.1.find? code = some device) (quantity : Quantity) :
    Made lines ((onDevice lines code device fun master =>
      Device.read master quantity).perform state).2

/-- **Whatever a registry has been through, it is sound.** -/
theorem Made.sound {state : Registry β × ω} (made : Made lines state) : state.1.Sound := by
  induction made with
  | new channels world => exact ofChannels_sound channels
  | touched made channels changed ih => exact ih
  | start made config ih => exact Action.keeps_iff.mp (start_sound config) _ ih
  | scan made family ih => exact Action.keeps_iff.mp (scan_sound family) _ ih
  | locate made code ih => exact Action.keeps_iff.mp (locate_sound code) _ ih
  | sample made found quantity ih =>
    refine Action.keeps_iff.mp (onDevice_sound (ih _ _ found) ?_) _ ih
    exact (Device.blind_fits _).keeps_sample quantity
  | read made found quantity ih =>
    refine Action.keeps_iff.mp (onDevice_sound (ih _ _ found) ?_) _ ih
    exact (Device.blind_fits _).keeps_read quantity

end Registry

end WireBridge
