import PageTrial.Address
import PageTrial.Address.Literal
import PageTrial.Backend
import PageTrial.Browser
import PageTrial.Browser.Arguments
import PageTrial.Clock
import PageTrial.Command
import PageTrial.Command.Arguments
import PageTrial.Command.Line
import PageTrial.Command.Usage
import PageTrial.Decimal.Double
import PageTrial.Decimal.Layout
import PageTrial.Decimal.Numeral
import PageTrial.Decimal.Power
import PageTrial.Decimal.Rounding
import PageTrial.Decimal.Shortest
import PageTrial.Declaration
import PageTrial.Event
import PageTrial.Fault
import PageTrial.Fields
import PageTrial.Json
import PageTrial.Json.Reader
import PageTrial.Json.Shown
import PageTrial.Main
import PageTrial.Note
import PageTrial.Patience
import PageTrial.Polling
import PageTrial.Readiness
import PageTrial.Registry
import PageTrial.Registry.Place
import PageTrial.Scenario
import PageTrial.Script
import PageTrial.Session
import PageTrial.Session.InMemory
import PageTrial.Session.Playwright
import PageTrial.Session.Roster
import PageTrial.Session.Selenium
import PageTrial.Site.Application
import PageTrial.Site.Directory
import PageTrial.Site.Framework
import PageTrial.Site.Hosting
import PageTrial.Site.Isolation
import PageTrial.Site.Response
import PageTrial.Site.Tree
import PageTrial.Tally
import PageTrial.Text.Blank
import PageTrial.Text.Cased
import PageTrial.Text.CharSet
import PageTrial.Text.Compatibility
import PageTrial.Text.Cut
import PageTrial.Text.Digit
import PageTrial.Text.Lowercase
import PageTrial.Text.Printable
import PageTrial.Text.Quoted
import PageTrial.Text.Word
import PageTrial.Timed
import PageTrial.Trial
import PageTrial.Trial.Config
import PageTrial.Trial.Config.Reader
import PageTrial.Trial.Result
import PageTrial.World
import PageTrial.Proofs.Address
import PageTrial.Proofs.Address.Literal
import PageTrial.Proofs.Address.Parts
import PageTrial.Proofs.Backend
import PageTrial.Proofs.Clock.Double
import PageTrial.Proofs.Command
import PageTrial.Proofs.Command.ExitCode
import PageTrial.Proofs.Command.Refusal
import PageTrial.Proofs.Command.Sandbox
import PageTrial.Proofs.Command.Serving
import PageTrial.Proofs.Command.Waiting
import PageTrial.Proofs.Declaration
import PageTrial.Proofs.Json
import PageTrial.Proofs.Polling
import PageTrial.Proofs.Polling.Bounded
import PageTrial.Proofs.Polling.Completion
import PageTrial.Proofs.Polling.Extension
import PageTrial.Proofs.Polling.Lateness
import PageTrial.Proofs.Polling.Paced
import PageTrial.Proofs.Polling.Watch
import PageTrial.Proofs.Readiness
import PageTrial.Proofs.Readiness.Inquiry
import PageTrial.Proofs.Session.Adapter
import PageTrial.Proofs.Session.Farewell
import PageTrial.Proofs.Session.Handles
import PageTrial.Proofs.Session.InMemory
import PageTrial.Proofs.Session.Interchange
import PageTrial.Proofs.Session.Launch
import PageTrial.Proofs.Session.Playwright
import PageTrial.Proofs.Session.Release
import PageTrial.Proofs.Session.Selenium
import PageTrial.Proofs.Session.Translation
import PageTrial.Proofs.Site.Framework
import PageTrial.Proofs.Site.Index
import PageTrial.Proofs.Site.Isolation
import PageTrial.Proofs.Text
import PageTrial.Proofs.Timed
import PageTrial.Proofs.Timed.Pair
import PageTrial.Proofs.Timed.Trace
import PageTrial.Proofs.Trail
import PageTrial.Proofs.Trial
import PageTrial.Proofs.Trial.Config
import PageTrial.Proofs.Trial.Course
import PageTrial.Proofs.Trial.Duration
import PageTrial.Proofs.Trial.Itinerary
import PageTrial.Proofs.Trial.Journal
import PageTrial.Proofs.Trial.Log
import PageTrial.Proofs.Trial.Pair
import PageTrial.Proofs.Trial.Passing
import PageTrial.Proofs.Trial.Plain
import PageTrial.Proofs.Trial.Release
import PageTrial.Proofs.Trial.Report
import PageTrial.Proofs.Trial.Series
import PageTrial.Proofs.Trial.Timeout
import PageTrial.Proofs.World
