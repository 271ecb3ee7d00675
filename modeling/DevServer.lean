import DevServer.Http.Metrics
import DevServer.Main
import DevServer.Settings.Printer
import DevServer.Proofs.Routes.Conflicts
import DevServer.Proofs.Routes.Precedence
import DevServer.Proofs.Routes.Tables
import DevServer.Proofs.Routes.Service
import DevServer.Proofs.Applications.Blueprints
import DevServer.Proofs.Routes.Literals
import DevServer.Proofs.Applications.Registration
import DevServer.Proofs.Applications.Assembly
import DevServer.Proofs.Applications.Answers
import DevServer.Proofs.Routes.Fixed
import DevServer.Proofs.Applications.Building
import DevServer.Proofs.Applications.Runs
import DevServer.Proofs.Applications.Permanence
import DevServer.Proofs.Layers.Transparency
import DevServer.Proofs.Layers.Outcomes
import DevServer.Proofs.Routes.Handlers
import DevServer.Proofs.Layers.Limits
import DevServer.Proofs.Layers.Bodies
import DevServer.Proofs.Layers.Identifiers
import DevServer.Proofs.Layers.Accounting
import DevServer.Proofs.Settings.Precedence
import DevServer.Proofs.Shutdown.Steps
import DevServer.Proofs.Shutdown.Delivery
import DevServer.Proofs.Serving.Stopping
import DevServer.Proofs.Serving.Termination
import DevServer.Proofs.Settings.Validity
import DevServer.Proofs.Text.Encoding
import DevServer.Proofs.CommandLine.Variables
import DevServer.Proofs.CommandLine.Outcomes
import DevServer.Proofs.Toml.Records
import DevServer.Proofs.Settings.Order
import DevServer.Proofs.Toml.Written
import DevServer.Proofs.Settings.RoundTrip
import DevServer.Proofs.Settings.Writes
import DevServer.Proofs.Applications.Order
import DevServer.Proofs.Net.Addresses
import DevServer.Proofs.Settings.Problems
import DevServer.Proofs.Serving.Receivers
import DevServer.Proofs.Serving.Failing
import DevServer.Proofs.Number.Numerals
import DevServer.Proofs.Settings.Values
import DevServer.Proofs.CommandLine.Lines
