import RouteCoordinator.Basic
import RouteCoordinator.Forwarder
import RouteCoordinator.Supervisor
import RouteCoordinator.Loop
import RouteCoordinator.Streams
import RouteCoordinator.Service
import RouteCoordinator.Registry
import RouteCoordinator.Failures
import RouteCoordinator.Reconfigure
import RouteCoordinator.Projection
import RouteCoordinator.Cleanup
import RouteCoordinator.Returns
import RouteCoordinator.Requests
