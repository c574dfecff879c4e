import WireBridge.Chip.Bank
import WireBridge.I2c.Trace
import WireBridge.I2c.Transport
import WireBridge.Main
import WireBridge.Sim.Script
import WireBridge.Proofs.Sim.Discovery
import WireBridge.Proofs.Sim.FamilyDiscovery
import WireBridge.Proofs.Registry.Scanning
import WireBridge.Proofs.Bridge.Accounting
import WireBridge.Proofs.Bridge.Phases
import WireBridge.Proofs.Bridge.Voltage
import WireBridge.Proofs.Bridge.Family
import WireBridge.Proofs.Bridge.Temperature
import WireBridge.Proofs.Bridge.Fairness
import WireBridge.Proofs.Bridge.Subscribing
import WireBridge.Proofs.Registry.Failing
import WireBridge.Proofs.Bridge.Lawful
import WireBridge.Proofs.I2c.Selecting
import WireBridge.Proofs.I2c.Holding
import WireBridge.Proofs.Command.Echoing
import WireBridge.Proofs.Host.Answering
import WireBridge.Proofs.Bridge.Causes
import WireBridge.Proofs.Bridge.Checking
import WireBridge.Proofs.Bus.Cursor
import WireBridge.Proofs.Bus.Budget
import WireBridge.Proofs.Sim.Presence
import WireBridge.Proofs.Sim.Shadow
import WireBridge.Proofs.Bus.Positions
import WireBridge.Proofs.Sim.Weathering
import WireBridge.Proofs.Sim.Slots
import WireBridge.Proofs.Sim.Resuming
import WireBridge.Proofs.Registry.Locating
import WireBridge.Proofs.Bridge.Fetching
import WireBridge.Proofs.Bridge.Sampling
import WireBridge.Proofs.Bridge.Periods
import WireBridge.Proofs.Command.Grammar
import WireBridge.Proofs.Device.Decoding
import WireBridge.Proofs.Device.Input
import WireBridge.Proofs.Device.Programming
import WireBridge.Proofs.Chip.Port
import WireBridge.Proofs.Chip.Guarding
import WireBridge.Proofs.Chip.BringUp
import WireBridge.Proofs.I2c.Freeing
import WireBridge.Proofs.Rom.Bursts
import WireBridge.Proofs.I2c.Gating
import WireBridge.Proofs.Device.Reporting
import WireBridge.Proofs.Config
import WireBridge.Proofs.Rom.Distance
import WireBridge.Proofs.Chip.Polling
import WireBridge.Proofs.Sim.Bounded
